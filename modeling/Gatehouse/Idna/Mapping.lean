/-
  Gatehouse/Idna/Mapping.lean --- what each character of a domain name becomes.

  Letters are lowered, variants of a character become the plain one, characters
  without meaning in a name are left out, and what cannot stand in a name is
  refused.  Of the ASCII characters only the capital letters change.

  Main definitions: `Idna.fate`, `Idna.mapped?`.
-/
import Gatehouse.Idna.MappingTable
import Gatehouse.Text.Rows

set_option autoImplicit false

namespace Gatehouse.Idna

/-- What becomes of a character. -/
inductive Fate where
  | keep
  | refuse
  | remove
  | replace (text : List Char)
  deriving DecidableEq, Repr, Inhabited

/-- The rule of a run of characters. -/
inductive Rule where
  /-- All characters of the run share one fate. -/
  | all (fate : Fate)
  /-- Each character becomes the one at a distance. -/
  | shift (distance : Int)
  /-- Every other character becomes the one at a distance. -/
  | alternate (distance : Int)
  deriving DecidableEq, Repr, Inhabited

/-- The character with a number. -/
def charOf (n : Int) : Char := Char.ofNat n.toNat

/-- The rule that a row of the table gives after its length. -/
def ruleOf (kind : Int) (rest : List Int) : Rule :=
  if kind = 0 then .all .keep
  else if kind = 1 then .all .refuse
  else if kind = 2 then .all .remove
  else if kind = 3 then .shift (rest.headD 0)
  else if kind = 4 then .alternate (rest.headD 0)
  else .all (.replace (rest.map charOf))

/-- The rules, each with the number of its first character. -/
def rules : Array (Nat × Rule) :=
  ((Text.readRows mappingText).foldl (fun (acc : Array (Nat × Rule) × Nat) row =>
    match row with
    | kind :: length :: rest => (acc.1.push (acc.2, ruleOf kind rest), acc.2 + length.toNat)
    | _ => acc) (#[], 0x80)).1

/-- What a rule does to a character, given the number of its run's first. -/
def Rule.fate (rule : Rule) (first : Nat) (c : Char) : Fate :=
  match rule with
  | .all fate => fate
  | .shift d => .replace [charOf (c.toNat + d)]
  | .alternate d =>
      if (c.toNat - first) % 2 = 0 then .replace [charOf (c.toNat + d)] else .keep

/-- What becomes of a character. -/
def fate (c : Char) : Fate :=
  if c.toNat < 0x80 then
    if c.isUpper then .replace [c.toLower] else .keep
  else
    match Text.covering? rules c.toNat with
    | some (first, rule) => rule.fate first c
    | none => .refuse

/-- The text that a text becomes, none when a character is refused. -/
def mapped? : List Char → Option (List Char)
  | [] => some []
  | c :: cs =>
      match fate c with
      | .keep => (mapped? cs).map (c :: ·)
      | .refuse => none
      | .remove => mapped? cs
      | .replace text => (mapped? cs).map (text ++ ·)

end Gatehouse.Idna
