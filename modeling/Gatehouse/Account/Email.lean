/-
  Gatehouse/Account/Email.lean --- addresses: their form and their masked form.

  An address has a local part, an at sign and a domain; the domain ends in a dot
  and at least two letters.  Letters and digits are the ASCII ones.  In the log an
  address appears with only the first character of its local part.

  Main definitions: `Email.isValid`, `Email.mask`.
-/

set_option autoImplicit false

namespace Gatehouse.Email

/-! ## The form of an address -/

/-- Whether a character is an ASCII letter. -/
def isLetter (c : Char) : Bool := c.isAlpha

/-- Whether a character may stand in a local part. -/
def isLocalChar (c : Char) : Bool :=
  c.isAlphanum || c = '.' || c = '_' || c = '%' || c = '+' || c = '-'

/-- Whether a character may stand in a domain before its last dot. -/
def isDomainChar (c : Char) : Bool := c.isAlphanum || c = '.' || c = '-'

/-- The part before the first occurrence of a character and the part after it. -/
def splitFirst? (mark : Char) : List Char → Option (List Char × List Char)
  | [] => none
  | c :: cs =>
      if c = mark then some ([], cs)
      else (splitFirst? mark cs).map fun p => (c :: p.1, p.2)

/-- The part before the last occurrence of a character and the part after it. -/
def splitLast? (mark : Char) (cs : List Char) : Option (List Char × List Char) :=
  (splitFirst? mark cs.reverse).map fun p => (p.2.reverse, p.1.reverse)

/-- Whether a text is a domain: something, a dot, and at least two letters. -/
def isDomain (cs : List Char) : Bool :=
  match splitLast? '.' cs with
  | none => false
  | some (name, top) =>
      !name.isEmpty && name.all isDomainChar && decide (2 ≤ top.length) && top.all isLetter

/-- Whether a list of characters is an address. -/
def isAddress (cs : List Char) : Bool :=
  match splitFirst? '@' cs with
  | none => false
  | some (name, domain) => !name.isEmpty && name.all isLocalChar && isDomain domain

/-- Whether a string looks like a deliverable address. -/
def isValid (s : String) : Bool := isAddress s.toList

/-! ## Masking -/

/-- Hides all of the part before the first at sign but its first character; a
single character is hidden too, and a text without an at sign is hidden whole. -/
def maskChars (cs : List Char) : List Char :=
  match splitFirst? '@' cs with
  | none => ['*', '*', '*']
  | some (first :: second :: rest, domain) =>
      first :: (List.replicate (second :: rest).length '*' ++ '@' :: domain)
  | some (_, domain) => '*' :: '@' :: domain

/-- The form in which an address is logged. -/
def mask (s : String) : String := String.ofList (maskChars s.toList)

/-- The first occurrence of a mark is the one after a part without it. -/
theorem splitFirst?_append {mark : Char} {a b : List Char} (h : mark ∉ a) :
    splitFirst? mark (a ++ mark :: b) = some (a, b) := by
  induction a with
  | nil => simp [splitFirst?]
  | cons c a ih =>
    have hc : c ≠ mark := fun e => h (e ▸ List.mem_cons_self)
    have ha : mark ∉ a := fun m => h (List.mem_cons_of_mem _ m)
    simp [splitFirst?, hc, ih ha]

end Gatehouse.Email
