/-
  Gatehouse/Text/Numeral.lean --- decimal numerals of bounded integers.

  A numeral is a non-empty run of digits, with a sign in front if one is
  allowed.  It is read from left to right, and the first thing wrong with it is
  the fault reported: a character that is no digit, or the digit at which the
  number leaves its bounds.
-/

set_option autoImplicit false

namespace Gatehouse.Numeral

/-- Why a text is no numeral of the wanted kind. -/
inductive Fault where
  | empty
  | notDigit
  | tooLarge
  | tooSmall
  deriving DecidableEq, Repr, Inhabited

/-- The wording of a fault. -/
def Fault.message : Fault → String
  | .empty => "cannot parse integer from empty string"
  | .notDigit => "invalid digit found in string"
  | .tooLarge => "number too large to fit in target type"
  | .tooSmall => "number too small to fit in target type"

/-- The number that a decimal digit stands for. -/
def digit? (c : Char) : Option Nat :=
  if 48 ≤ c.toNat ∧ c.toNat ≤ 57 then some (c.toNat - 48) else none

/-- Reads digits on top of `acc`, as long as the number stays within `bound`. -/
def readDigits (bound : Nat) (excess : Fault) : List Char → Nat → Except Fault Nat
  | [], acc => .ok acc
  | c :: cs, acc =>
      match digit? c with
      | none => .error .notDigit
      | some d =>
          if acc * 10 + d ≤ bound then readDigits bound excess cs (acc * 10 + d)
          else .error excess

/-- Reads a numeral from 0 to `bound`; a plus sign may stand in front. -/
def readUnsigned (bound : Nat) : List Char → Except Fault Nat
  | [] => .error .empty
  | ['+'] => .error .notDigit
  | '+' :: cs => readDigits bound .tooLarge cs 0
  | cs => readDigits bound .tooLarge cs 0

/-- Reads a numeral from `-(bound + 1)` to `bound`; a sign may stand in front. -/
def readSigned (bound : Nat) : List Char → Except Fault Int
  | [] => .error .empty
  | ['+'] => .error .notDigit
  | ['-'] => .error .notDigit
  | '+' :: cs => (readDigits bound .tooLarge cs 0).map Int.ofNat
  | '-' :: cs => (readDigits (bound + 1) .tooSmall cs 0).map fun n => -Int.ofNat n
  | cs => (readDigits bound .tooLarge cs 0).map Int.ofNat

/-- The largest number of 16 bits. -/
def max16 : Nat := 0xFFFF

/-- The largest unsigned number of 32 bits. -/
def max32 : Nat := 0xFFFFFFFF

/-- The largest unsigned number of 64 bits. -/
def max64 : Nat := 0xFFFFFFFFFFFFFFFF

/-- The largest signed number of 64 bits. -/
def maxInt64 : Nat := 0x7FFFFFFFFFFFFFFF

/-- Reads an unsigned number of 32 bits. -/
def read32? (s : String) : Option Nat := (readUnsigned max32 s.toList).toOption

/-- Reads an unsigned number of 64 bits. -/
def read64? (s : String) : Option Nat := (readUnsigned max64 s.toList).toOption

/-- Reads a signed number of 64 bits. -/
def readInt64? (s : String) : Option Int := (readSigned maxInt64 s.toList).toOption

/-- The digit of a number below ten. -/
def digit (n : Nat) : Char := Char.ofNat (48 + n)

/-- The digits of a number, without leading zeros. -/
def ofNat (n : Nat) : List Char :=
  if n < 10 then [digit n] else ofNat (n / 10) ++ [digit (n % 10)]
termination_by n

/-- The numeral of an integer: a minus sign stands before the digits of a
negative one. -/
def ofInt : Int → List Char
  | .ofNat n => ofNat n
  | .negSucc n => '-' :: ofNat (n + 1)

theorem digit?_digit : ∀ n < 10, digit? (digit n) = some n := by decide

end Gatehouse.Numeral
