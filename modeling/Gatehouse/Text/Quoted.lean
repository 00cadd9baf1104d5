/-
  Gatehouse/Text/Quoted.lean --- a text between quotes.

  Quotes and backslashes have a backslash in front.  Characters that do not
  show by themselves are written by a letter, or by their number in base 16 between
  braces.
-/
import Gatehouse.Text.Hex
import Gatehouse.Text.Property

set_option autoImplicit false

namespace Gatehouse.Text

/-- A character between quotes. -/
def quotedChar (c : Char) : List Char :=
  if c = '"' ∨ c = '\\' then ['\\', c]
  else if c = '\t' then ['\\', 't']
  else if c = '\r' then ['\\', 'r']
  else if c = '\n' then ['\\', 'n']
  else if c.toNat = 0 then ['\\', '0']
  else if prints c then [c]
  else ['\\', 'u', '\x7b'] ++ Hex.ofNat c.toNat ++ ['\x7d']

/-- A text between quotes. -/
def quoted (s : String) : String :=
  String.ofList ('"' :: (s.toList.flatMap quotedChar ++ ['"']))

end Gatehouse.Text
