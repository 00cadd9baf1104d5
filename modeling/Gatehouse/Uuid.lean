/-
  Gatehouse/Uuid.lean --- universally unique identifiers.

  An identifier is a number of 128 bits.  It is written in lower case in five
  groups; it is read from that form, from the plain 32 digits, from the grouped
  form in braces and from the grouped form behind a name mark, with digits of
  either case.  What is refused is diagnosed by the first character that cannot
  belong to an identifier, else by its groups.

  Main definitions: `Uuid.toString`, `Uuid.parse`, `Uuid.random`.
-/
import Gatehouse.Text.Hex
import Gatehouse.Text.Utf8

set_option autoImplicit false

namespace Gatehouse

/-- An identifier of 128 bits. -/
structure Uuid where
  bits : BitVec 128
  deriving DecidableEq, Repr, Inhabited, BEq, Hashable

namespace Uuid

/-! ## Writing -/

/-- The 32 digits of an identifier. -/
def digits (u : Uuid) : List Char := Hex.fixed 32 u.bits.toNat

/-- The five groups, with hyphens between them. -/
def chars (u : Uuid) : List Char :=
  let d := u.digits
  d.take 8 ++ '-' :: ((d.drop 8).take 4 ++ '-' :: ((d.drop 12).take 4
    ++ '-' :: ((d.drop 16).take 4 ++ '-' :: d.drop 20)))

/-- The canonical text of an identifier. -/
def text (u : Uuid) : String := String.ofList u.chars

instance : ToString Uuid := ⟨text⟩

/-! ## Reading -/

/-- Why a text is no identifier. -/
inductive Fault where
  /-- A character that is neither a hexadecimal digit nor a hyphen. -/
  | character (c : Char) (position : Nat)
  /-- Digits alone, but not 32 of them. -/
  | length (found : Nat)
  /-- Not five groups. -/
  | groupCount (found : Nat)
  /-- A group of the wrong length. -/
  | groupLength (group expected found : Nat)
  deriving DecidableEq, Repr, Inhabited

/-- The wording of a fault. -/
def Fault.message : Fault → String
  | .character c position => s!"invalid character: found `{c}` at {position}"
  | .length found => s!"invalid length: found {found}"
  | .groupCount found => s!"invalid group count: expected 5, found {found}"
  | .groupLength group expected found =>
      s!"invalid group length in group {group}: expected {expected}, found {found}"

/-- Where each group begins. -/
def groupStarts : List Nat := [0, 9, 14, 19, 24]

/-- The identifier of 32 digits. -/
def ofDigits? (ds : List Char) : Option Uuid :=
  if ds.length = 32 then (Hex.read? ds).map fun n => ⟨BitVec.ofNat 128 n⟩ else none

/-- The identifier written in five groups. -/
def ofGroups? (cs : List Char) : Option Uuid :=
  if cs.length = 36 ∧ cs[8]? = some '-' ∧ cs[13]? = some '-' ∧ cs[18]? = some '-'
      ∧ cs[23]? = some '-' then
    ofDigits? (cs.take 8 ++ (cs.drop 9).take 4 ++ (cs.drop 14).take 4 ++ (cs.drop 19).take 4
      ++ cs.drop 24)
  else none

/-- The marks in front of an identifier written as a name. -/
def urns : List (List Char) := ["urn:uuid:".toList, "URN:UUID:".toList]

/-- The number of characters of such a mark. -/
def urnLength : Nat := 9

/-- Whether a text begins with the mark of a name. -/
def isUrn (cs : List Char) : Bool := urns.contains (cs.take urnLength)

/-- The text inside braces. -/
def unbrace? (cs : List Char) : Option (List Char) :=
  match cs with
  | '\x7b' :: rest => if rest.getLast? = some '\x7d' then some rest.dropLast else none
  | _ => none

/-- Reads an identifier in one of its four forms; the number of bytes decides
which form is tried. -/
def read? (cs : List Char) : Option Uuid :=
  match (Utf8.encode cs).length with
  | 32 => ofDigits? cs
  | 36 => ofGroups? cs
  | 38 => (unbrace? cs).bind ofGroups?
  | 45 => if isUrn cs then ofGroups? (cs.drop urnLength) else none
  | _ => none

/-- The first character that cannot stand in an identifier, with its position in
bytes. -/
def strange? (position : Nat) : List Char → Option (Char × Nat)
  | [] => none
  | c :: cs =>
      if c = '-' ∨ (Hex.value? c).isSome then strange? (position + 1) cs
      else some (c, position)

/-- The first group, with its number, whose end is not where it should be. -/
def wrongGroup? (ends : List Nat) : Option Fault :=
  let rec go (group : Nat) : List Nat → List Nat → Option Fault
    | e :: ends, start :: next :: starts =>
        if e + 1 = next then go (group + 1) ends (next :: starts)
        else some (.groupLength group (next - start - 1) (e - start))
    | _, _ => none
  go 0 ends groupStarts

/-- The positions of the hyphens. -/
def hyphens (cs : List Char) : List Nat :=
  (cs.zipIdx.filter fun p => p.1 = '-').map Prod.snd

/-- Why a text that reads as no identifier is none. -/
def diagnose (cs : List Char) : Fault :=
  let (body, offset, plain) :=
    match unbrace? cs with
    | some inner => (inner, 1, false)
    | none =>
        if isUrn cs then (cs.drop urnLength, urnLength, false) else (cs, 0, true)
  match strange? 0 body with
  | some (c, position) => .character c (position + offset)
  | none =>
      let marks := hyphens body
      if marks.isEmpty && plain then .length cs.length
      else if marks.length ≠ 4 then .groupCount (marks.length + 1)
      else (wrongGroup? marks).getD (.groupLength 4 12 (cs.length - 24))

/-- Reads an identifier. -/
def parse (s : String) : Except Fault Uuid :=
  match read? s.toList with
  | some u => .ok u
  | none => .error (diagnose s.toList)

/-- Reads an identifier, without a diagnosis. -/
def parse? (s : String) : Option Uuid := read? s.toList

/-! ## Random identifiers -/

/-- The random identifier made of 128 random bits: the version is 4 and the
variant the standard one, the other bits are kept. -/
def random (bits : BitVec 128) : Uuid :=
  ⟨(bits &&& ~~~(0xF000#128 <<< 64) &&& ~~~(0xC#128 <<< 60)) ||| (0x4000#128 <<< 64)
    ||| (0x8#128 <<< 60)⟩

/-- Whether an identifier is a random one: version 4, standard variant. -/
def isRandom (u : Uuid) : Bool :=
  u.bits.extractLsb' 76 4 = 4 && u.bits.extractLsb' 62 2 = 2

/-- Whether a text is the canonical text of a random identifier. -/
def isRandomText (s : String) : Bool :=
  match parse? s with
  | some u => u.isRandom && u.text == s
  | none => false

/-! ## Order -/

/-- Identifiers are ordered as numbers. -/
instance : Ord Uuid := ⟨fun a b => compare a.bits.toNat b.bits.toNat⟩

instance : Std.TransOrd Uuid where
  eq_swap := @fun a b => @Std.OrientedCmp.eq_swap Nat compare _ a.bits.toNat b.bits.toNat
  isLE_trans := @fun a b c =>
    @Std.TransCmp.isLE_trans Nat compare _ a.bits.toNat b.bits.toNat c.bits.toNat

instance : Std.LawfulEqOrd Uuid where
  compare_self := @fun a => @Std.ReflCmp.compare_self Nat compare _ a.bits.toNat
  eq_of_compare := by
    intro a b h
    have same : a.bits.toNat = b.bits.toNat :=
      (@Std.LawfulEqCmp.compare_eq_iff_eq Nat compare _ a.bits.toNat b.bits.toNat).1 h
    cases a
    cases b
    exact congrArg Uuid.mk (BitVec.eq_of_toNat_eq same)

end Uuid

end Gatehouse
