/-
  Gatehouse/Url/Form.lean --- names and values in the query of an address.

  The pairs of a form stand between ampersands, name and value around an equals
  sign.  A blank is written as a plus sign; letters, digits and `*-._` stand for
  themselves, every other byte is written as a percent sign and two digits.
  Reading is lenient: empty parts are passed over, a part without an equals sign
  is a name, and bytes that spell no text are replaced.

  Main definitions: `Form.encode`, `Form.decode`.
-/
import Gatehouse.Url.Percent

set_option autoImplicit false

namespace Gatehouse.Form

/-- A name and its value. -/
abbrev Pair := List Char × List Char

/-! ## Writing -/

/-- Whether a byte stands for itself. -/
def isPlain (b : UInt8) : Bool :=
  let c := Char.ofNat b.toNat
  c.isAlphanum || c = '*' || c = '-' || c = '.' || c = '_'

/-- A byte of a name or value. -/
def ofByte (b : UInt8) : List Char :=
  if isPlain b then [Char.ofNat b.toNat]
  else if b = 0x20 then ['+']
  else Percent.ofByte b

/-- A name or a value. -/
def encodeText (cs : List Char) : List Char := (Utf8.encode cs).flatMap ofByte

/-- A pair. -/
def encodePair (p : Pair) : List Char := encodeText p.1 ++ '=' :: encodeText p.2

/-- The pairs of a form. -/
def encode : List Pair → List Char
  | [] => []
  | [p] => encodePair p
  | p :: rest => encodePair p ++ '&' :: encode rest

/-! ## Reading -/

/-- A name or a value, read. -/
def decodeText (cs : List Char) : List Char :=
  Utf8.decodeLossy (Percent.bytes (cs.map fun c => if c = '+' then ' ' else c))

/-- A part of a form, read as a pair: the name ends at the first equals sign. -/
def decodePair (cs : List Char) : Pair :=
  (decodeText (cs.takeWhile (· ≠ '=')), decodeText ((cs.dropWhile (· ≠ '=')).drop 1))

/-- The pairs of a form, read. -/
def decode (cs : List Char) : List Pair :=
  ((cs.splitOn '&').filter fun part => !part.isEmpty).map decodePair

end Gatehouse.Form
