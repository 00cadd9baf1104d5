/-
  Gatehouse/Text/Base64.lean --- base64 with padding.
-/
import Gatehouse.Text.Base64Url
import Gatehouse.Text.Utf8

set_option autoImplicit false

namespace Gatehouse.Base64

/-- The letter that stands for one of the alphabet for URLs. -/
def ofUrlLetter (c : Char) : Char :=
  if c = '-' then '+' else if c = '_' then '/' else c

/-- Writes the bytes of a text as letters, filled up to a multiple of four. -/
def encodeText (s : String) : String :=
  let letters := (Base64Url.encode (Utf8.bytes s)).map ofUrlLetter
  String.ofList (letters ++ List.replicate ((4 - letters.length % 4) % 4) '=')

end Gatehouse.Base64
