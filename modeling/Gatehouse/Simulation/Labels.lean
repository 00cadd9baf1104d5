/-
  Gatehouse/Simulation/Labels.lean --- names for texts that differ from run to run.

  A generated token is known by a label: its kind and its number among the tokens
  of that kind.  A text keeps the first label that it was given.  Where a labelled
  text occurs in a longer one, its label is shown in its place.

  Main definitions: `Labels`, `Labels.add`, `Labels.mask`.
-/

set_option autoImplicit false

namespace Gatehouse

/-- What a labelled text is. -/
inductive LabelKind where
  | activation
  | recovery
  | access
  | refresh
  | minted
  | altered
  | user
  | mail
  | id
  deriving DecidableEq, Repr, Inhabited

/-- The name of a kind in labels. -/
def LabelKind.name : LabelKind → String
  | .activation => "act"
  | .recovery => "rec"
  | .access => "access"
  | .refresh => "refresh"
  | .minted => "minted"
  | .altered => "altered"
  | .user => "user"
  | .mail => "mail"
  | .id => "id"

/-- A label with its text. -/
structure Label where
  kind : LabelKind
  number : Nat
  text : String
  deriving DecidableEq, Repr, Inhabited

/-- The name of a label. -/
def Label.name (l : Label) : String := l.kind.name ++ toString l.number

/-- The labels given so far, the last first. -/
structure Labels where
  given : List Label
  deriving DecidableEq, Repr, Inhabited

namespace Labels

/-- No labels. -/
def empty : Labels := ⟨[]⟩

/-- The label of a text. -/
def of? (ls : Labels) (text : String) : Option Label := ls.given.find? fun l => l.text == text

/-- The text of a label, by name. -/
def text? (ls : Labels) (name : String) : Option String :=
  (ls.given.find? fun l => l.name == name).map Label.text

/-- How many labels of a kind there are. -/
def count (ls : Labels) (kind : LabelKind) : Nat :=
  (ls.given.filter fun l => l.kind = kind).length

/-- Labels a text, unless it has a label. -/
def add (ls : Labels) (kind : LabelKind) (text : String) : Labels :=
  match ls.of? text with
  | some _ => ls
  | none => ⟨{ kind, number := ls.count kind + 1, text } :: ls.given⟩

/-- The longest labelled text at the beginning of a text. -/
def longestAt? (ls : Labels) (cs : List Char) : Option Label :=
  ls.given.foldl (fun best l =>
    if !l.text.isEmpty && l.text.toList.isPrefixOf cs then
      match best with
      | some b => if b.text.length < l.text.length then some l else some b
      | none => some l
    else best) none

/-- The characters of a text with labels in the place of labelled texts, the longest
ones first; `skip` characters belong to a text already replaced. -/
def maskFrom (ls : Labels) (skip : Nat) : List Char → List Char
  | [] => []
  | c :: cs =>
      match skip with
      | skip + 1 => maskFrom ls skip cs
      | 0 =>
          match ls.longestAt? (c :: cs) with
          | some l => ('<' :: l.name.toList) ++ '>' :: maskFrom ls (l.text.length - 1) cs
          | none => c :: maskFrom ls 0 cs

/-- A text with labels in the place of labelled texts. -/
def mask (ls : Labels) (text : String) : String := String.ofList (maskFrom ls 0 text.toList)

end Labels

end Gatehouse
