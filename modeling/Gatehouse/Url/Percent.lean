/-
  Gatehouse/Url/Percent.lean --- characters of an address that are written as bytes.

  A character that would be misread where it stands is written as its bytes, each
  as a percent sign and two digits.  Which characters these are depends on the
  part of the address; no character outside ASCII stands for itself anywhere.

  Main definitions: `Percent.encode`, `Percent.decode`.
-/
import Gatehouse.Text.Hex
import Gatehouse.Text.Utf8

set_option autoImplicit false

namespace Gatehouse.Percent

/-! ## Which characters are written as bytes -/

/-- Control characters and everything outside ASCII. -/
def isControl (c : Char) : Bool := c.toNat < 0x20 || 0x7E < c.toNat

/-- In a fragment. -/
def inFragment (c : Char) : Bool := isControl c || " \"<>`".toList.contains c

/-- In a path. -/
def inPath (c : Char) : Bool := inFragment c || "#?\x7b\x7d".toList.contains c

/-- In a user name or password. -/
def inUserInfo (c : Char) : Bool := inPath c || "/:;=@[\\]^|".toList.contains c

/-- In a query. -/
def inQuery (c : Char) : Bool := isControl c || " \"#<>".toList.contains c

/-- In the query of an address whose scheme has hosts. -/
def inSpecialQuery (c : Char) : Bool := inQuery c || c = '\''

/-! ## Writing and reading -/

/-- A byte as a percent sign and two digits. -/
def ofByte (b : UInt8) : List Char :=
  ['%', Hex.upperDigit (b.toNat / 16), Hex.upperDigit (b.toNat % 16)]

/-- A text with some of its characters written as bytes. -/
def encode (isWritten : Char → Bool) (cs : List Char) : List Char :=
  cs.flatMap fun c => if isWritten c then (Utf8.encodeChar c).flatMap ofByte else [c]

/-- The number that a byte stands for as a digit. -/
def digit? (b : UInt8) : Option Nat := Hex.value? (Char.ofNat b.toNat)

/-- The bytes behind a text; a percent sign without two digits stands for itself. -/
def decode : List UInt8 → List UInt8
  | [] => []
  | [a] => [a]
  | [a, b] => [a, b]
  | a :: b :: c :: rest =>
      if a = 0x25 then
        match digit? b, digit? c with
        | some x, some y => (x * 16 + y).toUInt8 :: decode rest
        | _, _ => a :: decode (b :: c :: rest)
      else a :: decode (b :: c :: rest)

/-- The bytes behind a text of characters. -/
def bytes (cs : List Char) : List UInt8 := decode (Utf8.encode cs)

end Gatehouse.Percent
