/-
  Gatehouse/Proofs/Account/Addresses.lean --- which texts are addresses.

  An address is made of a local part, a domain and a top, each of characters of its own
  kind, with an at sign after the first and a dot before the last.  A domain may have dots
  of its own, so where it ends is not told by a dot; a top has none, so it is what stands
  behind the last one.  The check cuts a text at its first at sign and at its last dot, and
  it finds parts exactly when there are some.

  Main definition: `Email.Address`.
  Main statements: `Email.Address.text_injective`, `Email.isValid_iff_exists_address`.
-/
import Mathlib.Data.List.DropRight
import Gatehouse.Account.Email

set_option autoImplicit false

namespace Gatehouse.Email

/-! ## Characters -/

/-- The ASCII letters. -/
def Letter (c : Char) : Prop := ('A' ≤ c ∧ c ≤ 'Z') ∨ ('a' ≤ c ∧ c ≤ 'z')

/-- The ASCII letters and digits. -/
def LetterOrDigit (c : Char) : Prop := Letter c ∨ ('0' ≤ c ∧ c ≤ '9')

/-- The characters of a local part. -/
def LocalChar (c : Char) : Prop := LetterOrDigit c ∨ c ∈ ['.', '_', '%', '+', '-']

/-- The characters of a domain. -/
def DomainChar (c : Char) : Prop := LetterOrDigit c ∨ c ∈ ['.', '-']

instance : DecidablePred Letter := fun _ => inferInstanceAs (Decidable (_ ∨ _))

instance : DecidablePred LetterOrDigit := fun _ => inferInstanceAs (Decidable (_ ∨ _))

instance : DecidablePred LocalChar := fun _ => inferInstanceAs (Decidable (_ ∨ _))

instance : DecidablePred DomainChar := fun _ => inferInstanceAs (Decidable (_ ∨ _))

theorem isLetter_iff {c : Char} : isLetter c = true ↔ Letter c := by
  have hletter : isLetter c = (c.isUpper || c.isLower) := rfl
  have hupper : c.isUpper = decide ('A' ≤ c ∧ c ≤ 'Z') := rfl
  have hlower : c.isLower = (decide ('a' ≤ c) && decide (c ≤ 'z')) := rfl
  rw [hletter, hupper, hlower, Bool.or_eq_true, Bool.and_eq_true, decide_eq_true_iff,
    decide_eq_true_iff, decide_eq_true_iff, Letter]

theorem isAlphanum_iff {c : Char} : c.isAlphanum = true ↔ LetterOrDigit c := by
  have halphanum : c.isAlphanum = (isLetter c || c.isDigit) := rfl
  have hdigit : c.isDigit = (decide ('0' ≤ c) && decide (c ≤ '9')) := rfl
  rw [halphanum, hdigit, Bool.or_eq_true, Bool.and_eq_true, isLetter_iff, decide_eq_true_iff,
    decide_eq_true_iff, LetterOrDigit]

theorem isLocalChar_iff {c : Char} : isLocalChar c = true ↔ LocalChar c := by
  simp [isLocalChar, LocalChar, ← isAlphanum_iff, or_assoc]

theorem isDomainChar_iff {c : Char} : isDomainChar c = true ↔ DomainChar c := by
  simp [isDomainChar, DomainChar, ← isAlphanum_iff, or_assoc]

/-! ## Cuts -/

variable {mark : Char} {cs a b : List Char}

theorem splitFirst?_eq_some_iff :
    splitFirst? mark cs = some (a, b) ↔ cs = a ++ mark :: b ∧ mark ∉ a := by
  constructor
  · intro h
    induction cs generalizing a with
    | nil => cases h
    | cons c cs ih =>
      rw [splitFirst?] at h
      split at h
      · rename_i hc
        cases h
        exact ⟨by rw [hc]; rfl, List.not_mem_nil⟩
      · rename_i hc
        obtain ⟨⟨front, back⟩, hp, heq⟩ := Option.map_eq_some_iff.1 h
        cases heq
        obtain ⟨rfl, hfront⟩ := ih hp
        exact ⟨rfl, List.not_mem_cons_of_ne_of_not_mem (Ne.symm hc) hfront⟩
  · rintro ⟨rfl, h⟩
    exact splitFirst?_append h

theorem splitLast?_eq_some_iff :
    splitLast? mark cs = some (a, b) ↔ cs = a ++ mark :: b ∧ mark ∉ b := by
  have hreverse : splitLast? mark cs = some (a, b)
      ↔ splitFirst? mark cs.reverse = some (b.reverse, a.reverse) := by
    rw [splitLast?, Option.map_eq_some_iff]
    constructor
    · rintro ⟨⟨front, back⟩, hsplit, heq⟩
      cases heq
      rw [hsplit, List.reverse_reverse, List.reverse_reverse]
    · intro hsplit
      exact ⟨_, hsplit, by rw [List.reverse_reverse, List.reverse_reverse]⟩
  have hcs : cs.reverse = b.reverse ++ mark :: a.reverse ↔ cs = a ++ mark :: b := by
    rw [List.reverse_eq_iff]
    simp
  rw [hreverse, splitFirst?_eq_some_iff, hcs, List.mem_reverse]

/-! ## Addresses -/

/-- An address by its parts. -/
structure Address where
  name : String
  domain : String
  top : String
  name_ne_empty : name ≠ ""
  localChar_of_mem_name : ∀ c ∈ name.toList, LocalChar c
  domain_ne_empty : domain ≠ ""
  domainChar_of_mem_domain : ∀ c ∈ domain.toList, DomainChar c
  two_le_length_top : 2 ≤ top.length
  letter_of_mem_top : ∀ c ∈ top.toList, Letter c

namespace Address

/-- The text that is made of the parts of an address. -/
def text (a : Address) : String := a.name ++ "@" ++ a.domain ++ "." ++ a.top

variable (a : Address)

theorem toList_text :
    a.text.toList = a.name.toList ++ '@' :: (a.domain.toList ++ '.' :: a.top.toList) := by
  simp [text]

theorem at_notMem_name : '@' ∉ a.name.toList := fun h =>
  absurd (a.localChar_of_mem_name '@' h) (by decide)

theorem at_notMem_domain : '@' ∉ a.domain.toList := fun h =>
  absurd (a.domainChar_of_mem_domain '@' h) (by decide)

theorem at_notMem_top : '@' ∉ a.top.toList := fun h =>
  absurd (a.letter_of_mem_top '@' h) (by decide)

theorem dot_notMem_top : '.' ∉ a.top.toList := fun h =>
  absurd (a.letter_of_mem_top '.' h) (by decide)

/-- No other at sign than the one behind the local part. -/
theorem count_at : a.text.toList.count '@' = 1 := by
  rw [toList_text, List.count_append, List.count_cons_self, List.count_append,
    List.count_cons_of_ne (by decide), List.count_eq_zero.2 a.at_notMem_name,
    List.count_eq_zero.2 a.at_notMem_domain, List.count_eq_zero.2 a.at_notMem_top]

/-- The top is what stands behind the last dot. -/
theorem rtakeWhile_text : a.text.toList.rtakeWhile (· ≠ '.') = a.top.toList := by
  have htop : ∀ c ∈ a.top.toList.reverse, decide (c ≠ '.') = true := by
    intro c hc
    rw [decide_eq_true_eq]
    rintro rfl
    exact a.dot_notMem_top (List.mem_reverse.1 hc)
  have htext : a.text.toList.reverse = a.top.toList.reverse
      ++ '.' :: (a.name.toList ++ '@' :: a.domain.toList).reverse := by
    simp [toList_text]
  rw [List.rtakeWhile, htext, List.takeWhile_append_of_pos htop, List.takeWhile_cons_of_neg
    (by decide), List.append_nil, List.reverse_reverse]

theorem splitFirst?_text :
    splitFirst? '@' a.text.toList
      = some (a.name.toList, a.domain.toList ++ '.' :: a.top.toList) :=
  splitFirst?_eq_some_iff.2 ⟨a.toList_text, a.at_notMem_name⟩

theorem splitLast?_rest :
    splitLast? '.' (a.domain.toList ++ '.' :: a.top.toList)
      = some (a.domain.toList, a.top.toList) :=
  splitLast?_eq_some_iff.2 ⟨rfl, a.dot_notMem_top⟩

/-- A text is made of parts in one way only. -/
theorem text_injective {a b : Address} (h : a.text = b.text) : a = b := by
  have hfirst := a.splitFirst?_text
  rw [h, b.splitFirst?_text] at hfirst
  obtain ⟨hname, hrest⟩ := Prod.mk.inj (Option.some.inj hfirst)
  have hlast := a.splitLast?_rest
  rw [← hrest, b.splitLast?_rest] at hlast
  obtain ⟨hdomain, htop⟩ := Prod.mk.inj (Option.some.inj hlast)
  cases a
  cases b
  cases String.toList_injective hname
  cases String.toList_injective hdomain
  cases String.toList_injective htop
  rfl

end Address

/-! ## The check -/

theorem isDomain_iff : isDomain cs = true
    ↔ ∃ name top, cs = name ++ '.' :: top ∧ name ≠ [] ∧ (∀ c ∈ name, DomainChar c)
        ∧ 2 ≤ top.length ∧ ∀ c ∈ top, Letter c := by
  constructor
  · intro h
    rw [isDomain] at h
    split at h
    · cases h
    · rename_i name top hsplit
      simp only [Bool.and_eq_true, Bool.not_eq_true', List.isEmpty_eq_false_iff, List.all_eq_true,
        decide_eq_true_eq, isDomainChar_iff, isLetter_iff] at h
      obtain ⟨⟨⟨hname, hchars⟩, hlength⟩, hletters⟩ := h
      exact ⟨name, top, (splitLast?_eq_some_iff.1 hsplit).1, hname, hchars, hlength, hletters⟩
  · rintro ⟨name, top, rfl, hname, hchars, hlength, hletters⟩
    have hdot : '.' ∉ top := fun h => absurd (hletters '.' h) (by decide)
    rw [isDomain, splitLast?_eq_some_iff.2 ⟨rfl, hdot⟩]
    simp only [Bool.and_eq_true, Bool.not_eq_true', List.isEmpty_eq_false_iff, List.all_eq_true,
      decide_eq_true_eq, isDomainChar_iff, isLetter_iff]
    exact ⟨⟨⟨hname, hchars⟩, hlength⟩, hletters⟩

/-- What the check cuts at the first at sign are the parts of an address. -/
theorem exists_address_of_isAddress (h : isAddress cs = true) :
    ∃ a : Address, a.text.toList = cs := by
  rw [isAddress] at h
  split at h
  · cases h
  rename_i name rest hsplit
  simp only [Bool.and_eq_true, Bool.not_eq_true', List.isEmpty_eq_false_iff, List.all_eq_true,
    isLocalChar_iff] at h
  obtain ⟨⟨hname, hlocal⟩, hdomain⟩ := h
  obtain ⟨domain, top, rfl, hne, hchars, hlength, hletters⟩ := isDomain_iff.1 hdomain
  let a : Address :=
    { name := String.ofList name
      domain := String.ofList domain
      top := String.ofList top
      name_ne_empty := by simpa using hname
      localChar_of_mem_name := by simpa using hlocal
      domain_ne_empty := by simpa using hne
      domainChar_of_mem_domain := by simpa using hchars
      two_le_length_top := by simpa using hlength
      letter_of_mem_top := by simpa using hletters }
  refine ⟨a, ?_⟩
  rw [a.toList_text, (splitFirst?_eq_some_iff.1 hsplit).1]
  simp [a]

theorem Address.isAddress_text (a : Address) : isAddress a.text.toList = true := by
  have hdomain : isDomain (a.domain.toList ++ '.' :: a.top.toList) = true :=
    isDomain_iff.2 ⟨_, _, rfl, by simpa using a.domain_ne_empty, a.domainChar_of_mem_domain,
      by simpa only [String.length_toList] using a.two_le_length_top, a.letter_of_mem_top⟩
  rw [isAddress, a.splitFirst?_text]
  simp only [Bool.and_eq_true, Bool.not_eq_true', List.isEmpty_eq_false_iff, List.all_eq_true,
    isLocalChar_iff]
  exact ⟨⟨by simpa using a.name_ne_empty, a.localChar_of_mem_name⟩, hdomain⟩

/-- The texts that pass the check are those that are made of the parts of an address, with
nothing before them or behind them.  Each has one at sign, its top behind its last dot, and
no other parts. -/
theorem isValid_iff_exists_address :
    (∀ s, isValid s = true ↔ ∃ a : Address, a.text = s)
      ∧ (∀ a : Address, a.text.toList.count '@' = 1
        ∧ a.text.toList.rtakeWhile (· ≠ '.') = a.top.toList)
      ∧ Function.Injective Address.text := by
  refine ⟨fun s => ⟨fun h => ?_, ?_⟩, fun a => ⟨a.count_at, a.rtakeWhile_text⟩,
    fun _ _ => Address.text_injective⟩
  · obtain ⟨a, ha⟩ := exists_address_of_isAddress h
    exact ⟨a, String.toList_injective ha⟩
  · rintro ⟨a, rfl⟩
    exact a.isAddress_text

example : isValid "a.b+tag@mail.example.org" = true := by decide

example : isValid "alice@example.com\n" = false := by decide

end Gatehouse.Email
