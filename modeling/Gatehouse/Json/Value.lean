/-
  Gatehouse/Json/Value.lean --- JSON values and their text.

  An object is a list of members in the order written, so that a repeated key
  can be seen.  Numbers are the integers of 64 bits; a number literal that is
  not one of them, and a string literal that spells no text, are values that no
  field can hold: they are kept apart so that they may stand where a value is
  only passed over.

  Main definitions: `Json`, `Json.render`.
-/
import Gatehouse.Text.Hex
import Gatehouse.Text.Numeral

set_option autoImplicit false

namespace Gatehouse

/-- A JSON value. -/
inductive Json where
  | null
  | bool (b : Bool)
  | int (i : Int)
  /-- A number that is no integer of 64 bits. -/
  | real
  | str (s : String)
  /-- A string literal whose bytes or escapes spell no text. -/
  | garbled
  | arr (items : List Json)
  | obj (members : List (String × Json))
  deriving Inhabited, Repr

namespace Json

/-- The value of a number. -/
def nat (n : Nat) : Json := .int n

/-- The value of an optional text: null when there is none. -/
def optStr : Option String → Json
  | none => .null
  | some s => .str s

/-! ## Text of a value -/

/-- A character inside a string literal: quotes, backslashes and the characters
below blank are escaped, the common ones by a letter, the others by their
number. -/
def escapeChar (c : Char) : List Char :=
  if c = '"' then ['\\', '"']
  else if c = '\\' then ['\\', '\\']
  else if c.toNat = 8 then ['\\', 'b']
  else if c.toNat = 9 then ['\\', 't']
  else if c.toNat = 10 then ['\\', 'n']
  else if c.toNat = 12 then ['\\', 'f']
  else if c.toNat = 13 then ['\\', 'r']
  else if c.toNat < 32 then
    ['\\', 'u', '0', '0', Hex.digit (c.toNat / 16), Hex.digit (c.toNat % 16)]
  else [c]

/-- A string literal. -/
def quote (s : String) : List Char :=
  '"' :: (s.toList.flatMap escapeChar ++ ['"'])

mutual

/-- The text of a value, without any blank.  The two kinds of value that no field
can hold are written as null. -/
def render : Json → List Char
  | .null => ['n', 'u', 'l', 'l']
  | .bool true => ['t', 'r', 'u', 'e']
  | .bool false => ['f', 'a', 'l', 's', 'e']
  | .int i => Numeral.ofInt i
  | .real => ['n', 'u', 'l', 'l']
  | .str s => quote s
  | .garbled => ['n', 'u', 'l', 'l']
  | .arr items => '[' :: (renderItems items ++ [']'])
  | .obj members => '\x7b' :: (renderMembers members ++ ['\x7d'])

/-- The items of a list, with commas between them. -/
def renderItems : List Json → List Char
  | [] => []
  | [v] => render v
  | v :: rest => render v ++ ',' :: renderItems rest

/-- The members of an object, with commas between them. -/
def renderMembers : List (String × Json) → List Char
  | [] => []
  | [(k, v)] => quote k ++ ':' :: render v
  | (k, v) :: rest => quote k ++ ':' :: render v ++ ',' :: renderMembers rest

end

/-- The text of a value as a string. -/
def text (v : Json) : String := String.ofList (render v)

/-! ## Looking into a value -/

/-- The first member with the given key. -/
def get? (v : Json) (key : String) : Option Json :=
  match v with
  | .obj members => members.lookup key
  | _ => none

mutual

/-- A value with every text in it changed; the keys stay. -/
def mapText (f : String → String) : Json → Json
  | .str s => .str (f s)
  | .arr items => .arr (mapTextItems f items)
  | .obj members => .obj (mapTextMembers f members)
  | v => v

/-- Items with every text in them changed. -/
def mapTextItems (f : String → String) : List Json → List Json
  | [] => []
  | v :: rest => mapText f v :: mapTextItems f rest

/-- Members with every text in them changed. -/
def mapTextMembers (f : String → String) : List (String × Json) → List (String × Json)
  | [] => []
  | (key, v) :: rest => (key, mapText f v) :: mapTextMembers f rest

end

mutual

/-- How deep lists and objects are nested. -/
def depth : Json → Nat
  | .arr items => depthItems items + 1
  | .obj members => depthMembers members + 1
  | _ => 0

/-- The depth of the deepest item. -/
def depthItems : List Json → Nat
  | [] => 0
  | v :: rest => max (depth v) (depthItems rest)

/-- The depth of the deepest member. -/
def depthMembers : List (String × Json) → Nat
  | [] => 0
  | (_, v) :: rest => max (depth v) (depthMembers rest)

end

end Json

end Gatehouse
