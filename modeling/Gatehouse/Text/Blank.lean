/-
  Gatehouse/Text/Blank.lean --- blank characters.

  The characters with the property White_Space: a text of nothing else counts as
  empty.
-/

set_option autoImplicit false

namespace Gatehouse.Text

/-- Whether a character has the property White_Space. -/
def isBlank (c : Char) : Bool :=
  let n := c.toNat
  (9 ≤ n && n ≤ 13) || n = 32 || n = 0x85 || n = 0xA0 || n = 0x1680
    || (0x2000 ≤ n && n ≤ 0x200A) || n = 0x2028 || n = 0x2029 || n = 0x202F
    || n = 0x205F || n = 0x3000

/-- Whether a text has a character that is not blank. -/
def notEmpty (s : String) : Bool := s.toList.any fun c => !isBlank c

/-- The text without the blanks at its two ends. -/
def trim (cs : List Char) : List Char :=
  ((cs.dropWhile isBlank).reverse.dropWhile isBlank).reverse

end Gatehouse.Text
