/-
  Gatehouse/Text/Base64Url.lean --- base64 with the alphabet for URLs, unpadded.

  Three bytes make four letters; one or two bytes at the end make two or three.
  Reading is strict: a letter outside the alphabet, a padding sign, a lone
  letter at the end, or unused bits that are not zero are all refused, so a byte
  sequence has exactly one spelling.
-/

set_option autoImplicit false

namespace Gatehouse.Base64Url

/-- The letter of a number below sixty-four. -/
def letter (n : Nat) : Char :=
  if n < 26 then Char.ofNat (65 + n)
  else if n < 52 then Char.ofNat (71 + n)
  else if n < 62 then Char.ofNat (n - 4)
  else if n = 62 then '-'
  else '_'

/-- The number of a letter. -/
def value? (c : Char) : Option Nat :=
  let n := c.toNat
  if 65 ≤ n ∧ n ≤ 90 then some (n - 65)
  else if 97 ≤ n ∧ n ≤ 122 then some (n - 71)
  else if 48 ≤ n ∧ n ≤ 57 then some (n + 4)
  else if c = '-' then some 62
  else if c = '_' then some 63
  else none

theorem value?_letter : ∀ n < 64, value? (letter n) = some n := by decide

/-- Writes bytes as letters. -/
def encode : List UInt8 → List Char
  | [] => []
  | [a] => [letter (a.toNat / 4), letter (a.toNat % 4 * 16)]
  | [a, b] =>
      [letter (a.toNat / 4), letter (a.toNat % 4 * 16 + b.toNat / 16),
        letter (b.toNat % 16 * 4)]
  | a :: b :: c :: rest =>
      letter (a.toNat / 4) :: letter (a.toNat % 4 * 16 + b.toNat / 16)
        :: letter (b.toNat % 16 * 4 + c.toNat / 64) :: letter (c.toNat % 64) :: encode rest

/-- Reads letters as bytes. -/
def decode? : List Char → Option (List UInt8)
  | [] => some []
  | [_] => none
  | [a, b] => do
      let x ← value? a
      let y ← value? b
      if y % 16 = 0 then some [(x * 4 + y / 16).toUInt8] else none
  | [a, b, c] => do
      let x ← value? a
      let y ← value? b
      let z ← value? c
      if z % 4 = 0 then
        some [(x * 4 + y / 16).toUInt8, (y % 16 * 16 + z / 4).toUInt8]
      else none
  | a :: b :: c :: d :: rest => do
      let x ← value? a
      let y ← value? b
      let z ← value? c
      let w ← value? d
      let more ← decode? rest
      some ((x * 4 + y / 16).toUInt8 :: (y % 16 * 16 + z / 4).toUInt8
        :: (z % 4 * 64 + w).toUInt8 :: more)

end Gatehouse.Base64Url
