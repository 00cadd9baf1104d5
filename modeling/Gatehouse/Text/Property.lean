/-
  Gatehouse/Text/Property.lean --- which characters show, and which make words.

  Of the ASCII characters the classes are known; those of all others are looked up.

  Main definitions: `Text.prints`, `Text.isAlphanumeric`.
-/
import Gatehouse.Text.PropertyTables
import Gatehouse.Text.Rows

set_option autoImplicit false

namespace Gatehouse.Text

/-- Characters that do not show by themselves. -/
def hiddenRuns : Array (Nat × Nat) := runs hiddenText

/-- Letters and numbers. -/
def alphanumericRuns : Array (Nat × Nat) := runs alphanumericText

/-- Whether a character shows by itself: it is no control or format character, no blank
but the space, no mark that extends the character before, and stands for something. -/
def prints (c : Char) : Bool :=
  if c.toNat < 0x80 then 0x20 ≤ c.toNat && c.toNat < 0x7F else valueIn hiddenRuns c = 0

/-- Whether a character is a letter or a number of any script. -/
def isAlphanumeric (c : Char) : Bool :=
  if c.toNat < 0x80 then c.isAlphanum else valueIn alphanumericRuns c = 1

end Gatehouse.Text
