/-
  Gatehouse/Idna/Composition.lean --- composed characters.

  A letter with its marks can be written as one character or as several.  The
  composed form is the one with the fewest characters: everything is taken apart,
  marks are put into the order of their classes, and each letter is joined with
  the marks that follow it as far as a character for both exists.  Korean
  syllables are composed by calculation.

  The tables leave out the characters that are only other spellings of a single
  one: the mapping has replaced them before.

  Main definition: `Idna.composed`.
-/
import Gatehouse.Idna.PropertyTables
import Gatehouse.Text.Rows
import Std.Data.HashMap

set_option autoImplicit false

namespace Gatehouse.Idna

/-! ## Tables -/

/-- Combining classes. -/
def combiningRuns : Array (Nat × Nat) := Text.runs combiningText

/-- The combining class of a character: zero for one that begins a cluster. -/
def combiningClass (c : Char) : Nat := Text.valueIn combiningRuns c

/-- A composed character with its parts. -/
structure Composition where
  whole : Nat
  first : Nat
  second : Nat
  /-- Whether it is put together again after it was taken apart. -/
  stable : Bool
  deriving DecidableEq, Repr, Inhabited

/-- The composed characters in order. -/
def compositions : List Composition :=
  ((Text.readRows compositionText).foldl (fun (acc : List Composition × Nat) row =>
    match row with
    | distance :: first :: second :: rest =>
        let whole := acc.2 + distance.toNat
        (⟨whole, first.toNat, second.toNat, rest.isEmpty⟩ :: acc.1, whole)
    | _ => acc) ([], 0)).1.reverse

/-- The parts of each composed character. -/
def partsTable : Std.HashMap Nat (Nat × Nat) :=
  Std.HashMap.ofList (compositions.map fun c => (c.whole, (c.first, c.second)))

/-- The character composed of two others. -/
def wholesTable : Std.HashMap (Nat × Nat) Nat :=
  Std.HashMap.ofList
    ((compositions.filter Composition.stable).map fun c => ((c.first, c.second), c.whole))

/-! ## Korean syllables -/

/-- The parts of a syllable: a lead, a vowel and perhaps a tail. -/
def syllableParts? (n : Nat) : Option (List Nat) :=
  if 0xAC00 ≤ n ∧ n < 0xAC00 + 11172 then
    let s := n - 0xAC00
    let tail := if s % 28 = 0 then [] else [0x11A7 + s % 28]
    some ((0x1100 + s / 588) :: (0x1161 + s % 588 / 28) :: tail)
  else none

/-- The syllable of a lead and a vowel, or of a syllable without tail and a tail. -/
def syllable? (a b : Nat) : Option Nat :=
  if 0x1100 ≤ a ∧ a < 0x1113 ∧ 0x1161 ≤ b ∧ b < 0x1176 then
    some (0xAC00 + ((a - 0x1100) * 21 + (b - 0x1161)) * 28)
  else if 0xAC00 ≤ a ∧ a < 0xAC00 + 11172 ∧ (a - 0xAC00) % 28 = 0 ∧ 0x11A7 < b ∧ b < 0x11C3 then
    some (a + (b - 0x11A7))
  else none

/-! ## Taking apart -/

/-- The parts of a character, taken apart at most `depth` times. -/
def partsOf (depth n : Nat) : List Nat :=
  match depth with
  | 0 => [n]
  | depth + 1 =>
      match syllableParts? n, partsTable.get? n with
      | some parts, _ => parts
      | none, some (a, b) => partsOf depth a ++ partsOf depth b
      | none, none => [n]

/-- How often a character can be taken apart, its parts included. -/
def maxDepth : Nat := 8

/-- Adds a character to a text given with its last character first: a mark moves in
front of the marks of higher classes. -/
def insertMark (c : Char) : List Char → List Char
  | [] => [c]
  | d :: ds =>
      if combiningClass c ≠ 0 ∧ combiningClass c < combiningClass d then d :: insertMark c ds
      else c :: d :: ds

/-- A text taken apart, with its marks in order. -/
def decomposed (cs : List Char) : List Char :=
  ((cs.flatMap fun c => (partsOf maxDepth c.toNat).map Char.ofNat).foldl
    (fun acc c => insertMark c acc) []).reverse

/-! ## Putting together -/

/-- The character composed of two others. -/
def compose? (a b : Char) : Option Char :=
  ((syllable? a.toNat b.toNat).orElse fun _ => wholesTable.get? (a.toNat, b.toNat)).map Char.ofNat

/-- A cluster under way: its first character, and the marks that could not be joined
with it, the last first. -/
structure Cluster where
  base : Char
  marks : List Char
  deriving DecidableEq, Repr, Inhabited

/-- The text of a cluster. -/
def Cluster.text (k : Cluster) : List Char := k.base :: k.marks.reverse

/-- Joins a character with the base of a cluster, unless a mark of its own class or
a higher one stands between them. -/
def Cluster.join? (k : Cluster) (c : Char) : Option Cluster :=
  let free := match k.marks with
    | [] => true
    | d :: _ => combiningClass d < combiningClass c
  if free then (compose? k.base c).map fun whole => { k with base := whole } else none

/-- Puts together a text that goes on after a cluster. -/
def composeFrom (k : Cluster) : List Char → List Char
  | [] => k.text
  | c :: cs =>
      match k.join? c with
      | some k => composeFrom k cs
      | none =>
          if combiningClass c = 0 then k.text ++ composeFrom ⟨c, []⟩ cs
          else composeFrom { k with marks := c :: k.marks } cs

/-- Puts together a text that was taken apart. -/
def recomposed : List Char → List Char
  | [] => []
  | c :: cs =>
      if combiningClass c = 0 then composeFrom ⟨c, []⟩ cs else c :: recomposed cs

/-- The composed form of a text. -/
def composed (cs : List Char) : List Char :=
  if cs.all fun c => c.toNat < 0xC0 then cs else recomposed (decomposed cs)

end Gatehouse.Idna
