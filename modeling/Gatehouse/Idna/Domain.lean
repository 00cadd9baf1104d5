/-
  Gatehouse/Idna/Domain.lean --- domain names in any script, as ASCII.

  A name is mapped, composed and cut at its dots.  A label that is ASCII is taken
  as it is, any other is written in letters, digits and hyphens behind `xn--`; a
  label that already begins so is read to see whether it is sound.  A sound label
  holds only characters that stand for themselves, does not begin with a mark, has
  joiners only where they matter, and in a name with a script written from right
  to left it has one direction.  Hyphens are not looked at, and lengths only to
  bound the work of reading and writing.

  Main definition: `Idna.toAscii?`.
-/
import Gatehouse.Idna.Composition
import Gatehouse.Idna.Mapping
import Gatehouse.Idna.Punycode

set_option autoImplicit false

namespace Gatehouse.Idna

/-! ## Properties of characters -/

/-- Marks. -/
def markRuns : Array (Nat × Nat) := Text.runs markText

/-- Directions. -/
def directionRuns : Array (Nat × Nat) := Text.runs directionText

/-- Joining types. -/
def joiningRuns : Array (Nat × Nat) := Text.runs joiningText

/-- Whether a character combines with the one before. -/
def isMark (c : Char) : Bool := Text.valueIn markRuns c = 1

/-- How a character takes part in the direction of a text. -/
inductive Direction where
  | leftToRight
  | rightToLeft
  | arabicNumber
  | europeanNumber
  | neutral
  | nonspacing
  | other
  deriving DecidableEq, Repr, Inhabited

/-- The direction of a character. -/
def direction (c : Char) : Direction :=
  match Text.valueIn directionRuns c with
  | 0 => .leftToRight
  | 1 => .rightToLeft
  | 2 => .arabicNumber
  | 3 => .europeanNumber
  | 4 => .neutral
  | 5 => .nonspacing
  | _ => .other

/-- How a character joins with its neighbours. -/
inductive Joining where
  | none
  | both
  | left
  | right
  | transparent
  | causing
  deriving DecidableEq, Repr, Inhabited

/-- The joining type of a character. -/
def joining (c : Char) : Joining :=
  match Text.valueIn joiningRuns c with
  | 1 => .both
  | 2 => .left
  | 3 => .right
  | 4 => .transparent
  | 5 => .causing
  | _ => .none

/-! ## Sound labels -/

/-- The ASCII characters that would end a host or hide where it ends. -/
def isForbidden (c : Char) : Bool :=
  c.toNat ≤ 0x20 || c.toNat = 0x7F || "%#/:<>?@[\\]^|".toList.contains c

/-- The combining class of the sign that kills a vowel. -/
def viramaClass : Nat := 9

/-- The first character that is not transparent. -/
def firstJoining (cs : List Char) : Option Joining :=
  (cs.map joining).find? (· ≠ .transparent)

/-- Whether each joiner stands after a vowel killer, or, if it keeps letters apart,
between letters that would join.  The characters before are given with the last
one first. -/
def joinersMatter (before : List Char) : List Char → Bool
  | [] => true
  | c :: cs =>
      let afterVirama := (before.head?.map combiningClass) = some viramaClass
      let parts :=
        (firstJoining before = some .both ∨ firstJoining before = some .left)
          ∧ (firstJoining cs = some .both ∨ firstJoining cs = some .right)
      (if c.toNat = 0x200C then decide (afterVirama ∨ parts)
        else if c.toNat = 0x200D then decide afterVirama else true)
        && joinersMatter (c :: before) cs

/-- Whether a label does not begin with a mark, holds no forbidden character, and has
joiners only where they matter. -/
def isSound (label : List Char) : Bool :=
  !(label.head?.any isMark) && !label.any isForbidden && joinersMatter [] label

/-- Whether a label that was read from its written form is sound: it is what it would
be mapped and composed to, and could not have been written in ASCII. -/
def isSoundDecoded (label : List Char) : Bool :=
  label.all (fun c => fate c = .keep) && composed label == label
    && label.any (fun c => !Punycode.isBasic c) && isSound label

/-- Whether a label has one direction. -/
def hasOneDirection (label : List Char) : Bool :=
  let ds := label.map direction
  let ending := ds.reverse.dropWhile (· = .nonspacing)
  match ds with
  | [] => true
  | .rightToLeft :: _ =>
      ds.all (fun d => d ≠ .leftToRight ∧ d ≠ .other)
        && (match ending with
          | .rightToLeft :: _ | .europeanNumber :: _ | .arabicNumber :: _ => true
          | _ => false)
        && !(ds.contains .europeanNumber && ds.contains .arabicNumber)
  | .leftToRight :: _ =>
      ds.all (fun d => d ≠ .rightToLeft ∧ d ≠ .arabicNumber ∧ d ≠ .other)
        && (match ending with
          | .leftToRight :: _ | .europeanNumber :: _ => true
          | _ => false)
  | _ => false

/-- Whether a label has a character of a script written from right to left. -/
def hasRightToLeft (label : List Char) : Bool :=
  label.any fun c => direction c = .rightToLeft ∨ direction c = .arabicNumber

/-! ## Names -/

/-- The mark of a label in its written form. -/
def writtenMark : List Char := "xn--".toList

/-- A label as it is read and as it is written. -/
structure Label where
  read : List Char
  written : List Char
  deriving DecidableEq, Repr, Inhabited

/-- The most characters of a label that is to be written with letters, digits and
hyphens: the time to write it grows with the square of their number. -/
def longestRead : Nat := 1000

/-- The most letters, digits and hyphens behind the mark of a label that is to be read. -/
def longestWritten : Nat := 2000

/-- A label read from what stands behind the mark, none when it is not sound. -/
def decoded? (tail : List Char) : Option (List Char) :=
  if tail.length ≤ longestWritten then (Punycode.decode? tail).filter isSoundDecoded else none

/-- A mapped and composed label, none when it is not sound or too long to be written. -/
def label? (cs : List Char) : Option Label :=
  if writtenMark.isPrefixOf cs then
    (decoded? (cs.drop writtenMark.length)).map fun label => ⟨label, cs⟩
  else if !isSound cs then none
  else if cs.all Punycode.isBasic then some ⟨cs, cs⟩
  else if cs.length ≤ longestRead then some ⟨cs, writtenMark ++ Punycode.encode cs⟩
  else none

/-- A domain name as ASCII, none when some part of it is not sound. -/
def toAscii? (name : List Char) : Option (List Char) := do
  let mapped ← mapped? name
  let labels ← ((composed mapped).splitOn '.').mapM label?
  if labels.any (fun l => hasRightToLeft l.read)
      && !labels.all (fun l => hasOneDirection l.read) then none
  else some (['.'].intercalate (labels.map Label.written))

end Gatehouse.Idna
