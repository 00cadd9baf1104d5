/-
  Gatehouse/Json/Token.lean --- the words of a JSON text.

  The text is read byte by byte by an automaton.  A word that ends only where
  another begins (a number) is closed by the byte that follows it.  A string
  literal is collected as bytes and read as text when it ends; it is garbled if
  its bytes are not text or if an escape names half of a surrogate pair.

  Main definition: `Json.tokens?`.
-/
import Gatehouse.Json.Value
import Gatehouse.Text.Utf8

set_option autoImplicit false

namespace Gatehouse.Json

/-- A word of a JSON text. -/
inductive Token where
  | openList
  | closeList
  | openObject
  | closeObject
  | comma
  | colon
  | null
  | bool (b : Bool)
  | int (i : Int)
  | real
  | str (s : String)
  | garbled
  deriving DecidableEq, Repr, Inhabited

/-- How far a number literal has been read. -/
inductive NumberPart where
  /-- After the minus sign. -/
  | sign
  /-- After a leading zero, which no digit may follow. -/
  | zero
  /-- Inside the digits before the point. -/
  | whole
  /-- After the point. -/
  | point
  /-- Inside the digits after the point. -/
  | fraction
  /-- After the letter of the exponent. -/
  | exponent
  /-- After the sign of the exponent. -/
  | exponentSign
  /-- Inside the digits of the exponent. -/
  | exponentDigits
  deriving DecidableEq, Repr, Inhabited

/-- A string literal under way: its bytes so far, the last first; whether it is
sound so far; and the first half of a surrogate pair that waits for the second. -/
structure Literal where
  bytes : List UInt8
  sound : Bool
  high : Option Nat
  deriving DecidableEq, Repr, Inhabited

/-- Where the automaton stands. -/
inductive Mode where
  /-- Between two words. -/
  | between
  /-- Inside `null`, `true` or `false`, with the bytes still to come. -/
  | word (missing : List UInt8) (token : Token)
  /-- Inside a number: its sign, its value so far, and the part being read. -/
  | number (negative : Bool) (value : Nat) (part : NumberPart)
  /-- Inside a string literal. -/
  | literal (lit : Literal)
  /-- After a backslash. -/
  | escape (lit : Literal)
  /-- Inside the four digits of an escape: how many are missing, and their value. -/
  | code (lit : Literal) (missing : Nat) (value : Nat)
  deriving DecidableEq, Repr, Inhabited

/-- The bytes of an ASCII text. -/
def ascii (s : String) : List UInt8 := s.toList.map fun c => c.toNat.toUInt8

/-- The word of an integer literal; an integer of more than 64 bits, and minus
zero, are numbers that no field can hold. -/
def integerToken (negative : Bool) (value : Nat) : Token :=
  if negative then
    if value = 0 ∨ value > 0x8000000000000000 then .real else .int (-Int.ofNat value)
  else if value > Numeral.max64 then .real
  else .int (Int.ofNat value)

/-- The word that a number literal makes when it ends here, none when it may not
end here. -/
def numberToken? (negative : Bool) (value : Nat) : NumberPart → Option Token
  | .zero | .whole => some (integerToken negative value)
  | .fraction | .exponentDigits => some .real
  | .sign | .point | .exponent | .exponentSign => none

/-- The word of a finished string literal. -/
def Literal.token (lit : Literal) : Token :=
  if lit.sound && lit.high.isNone then
    match Utf8.string? lit.bytes.reverse with
    | some s => .str s
    | none => .garbled
  else .garbled

/-- Adds a byte to a literal; a waiting first half of a pair stays alone. -/
def Literal.push (lit : Literal) (b : UInt8) : Literal :=
  { bytes := b :: lit.bytes, sound := lit.sound && lit.high.isNone, high := none }

/-- Adds the character with number `n` to a literal, or half of one. -/
def Literal.pushCode (lit : Literal) (n : Nat) : Literal :=
  let isHigh := 0xD800 ≤ n && n ≤ 0xDBFF
  let isLow := 0xDC00 ≤ n && n ≤ 0xDFFF
  let add (m : Nat) : List UInt8 := (Utf8.encodeChar (Char.ofNat m)).reverse ++ lit.bytes
  match lit.high with
  | some h =>
      if isLow then
        { lit with bytes := add (0x10000 + (h - 0xD800) * 1024 + (n - 0xDC00)), high := none }
      else { lit with sound := false, high := none }
  | none =>
      if isHigh then { lit with high := some n }
      else if isLow then { lit with sound := false }
      else { lit with bytes := add n }

/-- The byte that a one-letter escape stands for. -/
def escaped? (b : UInt8) : Option UInt8 :=
  if b = 0x22 ∨ b = 0x5C ∨ b = 0x2F then some b
  else if b = 0x62 then some 8
  else if b = 0x66 then some 12
  else if b = 0x6E then some 10
  else if b = 0x72 then some 13
  else if b = 0x74 then some 9
  else none

/-- Whether a byte is a decimal digit. -/
def isDigit (b : UInt8) : Bool := 0x30 ≤ b && b ≤ 0x39

/-- Whether a byte is one of the four blanks allowed between words. -/
def isSpace (b : UInt8) : Bool := b = 0x20 || b = 0x09 || b = 0x0A || b = 0x0D

/-- The first byte of a word: the words that end with it, and the mode after it. -/
def begin? (b : UInt8) : Option (List Token × Mode) :=
  if isSpace b then some ([], .between)
  else if b = 0x5B then some ([.openList], .between)
  else if b = 0x5D then some ([.closeList], .between)
  else if b = 0x7B then some ([.openObject], .between)
  else if b = 0x7D then some ([.closeObject], .between)
  else if b = 0x2C then some ([.comma], .between)
  else if b = 0x3A then some ([.colon], .between)
  else if b = 0x22 then some ([], .literal ⟨[], true, none⟩)
  else if b = 0x6E then some ([], .word (ascii "ull") .null)
  else if b = 0x74 then some ([], .word (ascii "rue") (.bool true))
  else if b = 0x66 then some ([], .word (ascii "alse") (.bool false))
  else if b = 0x2D then some ([], .number true 0 .sign)
  else if b = 0x30 then some ([], .number false 0 .zero)
  else if isDigit b then some ([], .number false (b.toNat - 48) .whole)
  else none

/-- The part of a number literal after one more byte, none when the byte does not
belong to the literal. -/
def NumberPart.next? (part : NumberPart) (b : UInt8) : Option NumberPart :=
  match part with
  | .sign => if b = 0x30 then some .zero else if isDigit b then some .whole else none
  | .zero =>
      if b = 0x2E then some .point
      else if b = 0x65 ∨ b = 0x45 then some .exponent else none
  | .whole =>
      if isDigit b then some .whole
      else if b = 0x2E then some .point
      else if b = 0x65 ∨ b = 0x45 then some .exponent else none
  | .point => if isDigit b then some .fraction else none
  | .fraction =>
      if isDigit b then some .fraction
      else if b = 0x65 ∨ b = 0x45 then some .exponent else none
  | .exponent =>
      if b = 0x2B ∨ b = 0x2D then some .exponentSign
      else if isDigit b then some .exponentDigits else none
  | .exponentSign => if isDigit b then some .exponentDigits else none
  | .exponentDigits => if isDigit b then some .exponentDigits else none

/-- One step of the automaton: the words that this byte completes, and the mode
after it; none when the text is no JSON. -/
def Mode.step? (mode : Mode) (b : UInt8) : Option (List Token × Mode) :=
  match mode with
  | .between => begin? b
  | .word missing token =>
      match missing with
      | [] => none
      | [c] => if b = c then some ([token], .between) else none
      | c :: rest => if b = c then some ([], .word rest token) else none
  | .number negative value part =>
      match part.next? b with
      | some .whole => some ([], .number negative (value * 10 + (b.toNat - 48)) .whole)
      | some next => some ([], .number negative value next)
      | none => do
          let token ← numberToken? negative value part
          let (words, mode) ← begin? b
          some (token :: words, mode)
  | .literal lit =>
      if b = 0x22 then some ([lit.token], .between)
      else if b = 0x5C then some ([], .escape lit)
      else if b < 0x20 then none
      else some ([], .literal (lit.push b))
  | .escape lit =>
      if b = 0x75 then some ([], .code lit 4 0)
      else (escaped? b).map fun e => ([], .literal (lit.push e))
  | .code lit missing value =>
      match Hex.value? (Char.ofNat b.toNat) with
      | none => none
      | some d =>
          if missing ≤ 1 then some ([], .literal (lit.pushCode (value * 16 + d)))
          else some ([], .code lit (missing - 1) (value * 16 + d))

/-- The words of a text that goes on in the given mode. -/
def tokensFrom? : Mode → List UInt8 → Option (List Token)
  | .between, [] => some []
  | .number negative value part, [] => (numberToken? negative value part).map fun t => [t]
  | _, [] => none
  | mode, b :: rest =>
      match mode.step? b with
      | none => none
      | some (words, next) => (tokensFrom? next rest).map (words ++ ·)

/-- The words of a JSON text, none when some part of it is no word. -/
def tokens? (bs : List UInt8) : Option (List Token) := tokensFrom? .between bs

end Gatehouse.Json
