/-
  Gatehouse/Text/Search.lean --- looking for a text inside another.
-/

set_option autoImplicit false

namespace Gatehouse.Text

/-- Whether a text contains another. -/
def contains (needle : List Char) : List Char → Bool
  | [] => needle.isEmpty
  | c :: cs => needle.isPrefixOf (c :: cs) || contains needle cs

/-- Splits a text at the first place where another stands, which is left out. -/
def splitAt? (needle : List Char) : List Char → Option (List Char × List Char)
  | [] => if needle.isEmpty then some ([], []) else none
  | c :: cs =>
      if needle.isPrefixOf (c :: cs) then some ([], (c :: cs).drop needle.length)
      else (splitAt? needle cs).map fun p => (c :: p.1, p.2)

/-- A text with another put in the place of each occurrence of a third; `skip` characters
belong to an occurrence already replaced. -/
def replaceFrom (old new : List Char) (skip : Nat) : List Char → List Char
  | [] => []
  | c :: cs =>
      match skip with
      | skip + 1 => replaceFrom old new skip cs
      | 0 =>
          if !old.isEmpty && old.isPrefixOf (c :: cs) then
            new ++ replaceFrom old new (old.length - 1) cs
          else c :: replaceFrom old new 0 cs

/-- A text with another put in the place of each occurrence of a third. -/
def replace (old new s : String) : String :=
  String.ofList (replaceFrom old.toList new.toList 0 s.toList)

end Gatehouse.Text
