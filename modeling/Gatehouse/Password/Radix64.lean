/-
  Gatehouse/Password/Radix64.lean --- bytes as letters in the hashes of passwords.

  Three bytes make four letters, one or two bytes at the end two or three; the
  alphabet begins with a point and a slash.  Reading is strict, and tells where a
  text goes wrong.

  Main definitions: `Radix64.encode`, `Radix64.decode`.
-/

set_option autoImplicit false

namespace Gatehouse.Radix64

/-- Where a text goes wrong: a byte and its place. -/
inductive Fault where
  | symbol (byte position : Nat)
  /-- The unused bits of the last letter are not zero. -/
  | lastSymbol (byte position : Nat)
  /-- A padding sign stands where one could be, but none is wanted. -/
  | padding
  /-- A single letter stands at the end. -/
  | length
  deriving DecidableEq, Repr, Inhabited

/-- The wording of a fault. -/
def Fault.message : Fault → String
  | .symbol byte position => s!"Invalid symbol {byte}, offset {position}."
  | .lastSymbol byte position => s!"Invalid last symbol {byte}, offset {position}."
  | .padding => "Invalid padding"
  | .length => "Invalid input length"

/-! ## Letters -/

/-- The letter of a number below sixty-four. -/
def letter (n : Nat) : Char :=
  if n < 2 then Char.ofNat (46 + n)
  else if n < 28 then Char.ofNat (63 + n)
  else if n < 54 then Char.ofNat (69 + n)
  else Char.ofNat (n - 6)

/-- The number of a letter, given by its byte. -/
def value? (b : UInt8) : Option Nat :=
  let n := b.toNat
  if n = 46 ∨ n = 47 then some (n - 46)
  else if 65 ≤ n ∧ n ≤ 90 then some (n - 63)
  else if 97 ≤ n ∧ n ≤ 122 then some (n - 69)
  else if 48 ≤ n ∧ n ≤ 57 then some (n + 6)
  else none

theorem value?_letter : ∀ n < 64, value? (letter n).toNat.toUInt8 = some n := by decide

/-! ## Writing -/

/-- Writes bytes as letters. -/
def encode : List UInt8 → List Char
  | [] => []
  | [a] => [letter (a.toNat / 4), letter (a.toNat % 4 * 16)]
  | [a, b] =>
      [letter (a.toNat / 4), letter (a.toNat % 4 * 16 + b.toNat / 16),
        letter (b.toNat % 16 * 4)]
  | a :: b :: c :: rest =>
      letter (a.toNat / 4) :: letter (a.toNat % 4 * 16 + b.toNat / 16)
        :: letter (b.toNat % 16 * 4 + c.toNat / 64) :: letter (c.toNat % 64) :: encode rest

/-! ## Reading -/

/-- The number of the letter at a place. -/
def number (position : Nat) (b : UInt8) : Except Fault Nat :=
  match value? b with
  | some n => .ok n
  | none => .error (.symbol b.toNat position)

/-- Reads letters, the first of them at a place in the whole text. -/
def decodeFrom (at_ : Nat) : List UInt8 → Except Fault (List UInt8)
  | [] => .ok []
  | [a] => do
      let _ ← number at_ a
      throw .length
  | [a, b] => do
      let x ← number at_ a
      let y ← number (at_ + 1) b
      if y % 16 = 0 then pure [(x * 4 + y / 16).toUInt8]
      else throw (.lastSymbol b.toNat (at_ + 1))
  | [a, b, c] => do
      let x ← number at_ a
      let y ← number (at_ + 1) b
      if c = 61 then throw .padding
      let z ← number (at_ + 2) c
      if z % 4 = 0 then pure [(x * 4 + y / 16).toUInt8, (y % 16 * 16 + z / 4).toUInt8]
      else throw (.lastSymbol c.toNat (at_ + 2))
  | a :: b :: c :: d :: rest => do
      let x ← number at_ a
      let y ← number (at_ + 1) b
      let z ← number (at_ + 2) c
      let w ← number (at_ + 3) d
      let more ← decodeFrom (at_ + 4) rest
      pure ((x * 4 + y / 16).toUInt8 :: (y % 16 * 16 + z / 4).toUInt8
        :: (z % 4 * 64 + w).toUInt8 :: more)

/-- Reads the bytes of a text as letters. -/
def decode (bytes : List UInt8) : Except Fault (List UInt8) := decodeFrom 0 bytes

end Gatehouse.Radix64
