/-
  Gatehouse/Text/Html.lean --- text inside HTML.

  The five characters that could end a text or an attribute are written as
  entities; every other character stands for itself.

  Main definition: `Html.escape`.
-/

set_option autoImplicit false

namespace Gatehouse.Html

/-- A character inside HTML text or an attribute value. -/
def escapeChar (c : Char) : List Char :=
  if c = '&' then ['&', 'a', 'm', 'p', ';']
  else if c = '<' then ['&', 'l', 't', ';']
  else if c = '>' then ['&', 'g', 't', ';']
  else if c = '"' then ['&', 'q', 'u', 'o', 't', ';']
  else if c = '\'' then ['&', '#', '3', '9', ';']
  else [c]

/-- A text inside HTML. -/
def escape (cs : List Char) : List Char := cs.flatMap escapeChar

end Gatehouse.Html
