/-
  Gatehouse/Proofs/Text/Numerals.lean --- which number a numeral spells.

  Digits spell a number of any size.  Reading them goes from left to right and stops as
  soon as the bound is left; since the digits behind only add to a number, what is read is
  the number that all of them spell, or nothing when that number is out of bounds.

  Main definitions: `Numeral.valueFrom`, `Numeral.Spells`.
  Main statements: `Numeral.readDigits_eq_ok_iff`, `Numeral.read64?_eq_some_iff`,
  `Numeral.valueFrom_ofNat`.
-/
import Gatehouse.Text.Numeral

set_option autoImplicit false

namespace Gatehouse.Numeral

/-! ## Digits -/

/-- The number that digits spell on top of `acc`. -/
def valueFrom (acc : Nat) (cs : List Char) : Nat :=
  cs.foldl (fun n c => n * 10 + (digit? c).getD 0) acc

theorem le_valueFrom (cs : List Char) (acc : Nat) : acc ≤ valueFrom acc cs := by
  induction cs generalizing acc with
  | nil => exact Nat.le_refl acc
  | cons c cs ih =>
    have hrest := ih (acc * 10 + (digit? c).getD 0)
    have hfirst : acc ≤ acc * 10 + (digit? c).getD 0 := by omega
    exact Nat.le_trans hfirst hrest

/-- What is read is the number that the digits spell, when all of them are digits and the
number stays within the bound. -/
theorem readDigits_eq_ok_iff {bound acc n : Nat} (excess : Fault) {cs : List Char}
    (within : acc ≤ bound) :
    readDigits bound excess cs acc = .ok n
      ↔ (∀ c ∈ cs, (digit? c).isSome) ∧ valueFrom acc cs = n ∧ n ≤ bound := by
  induction cs generalizing acc with
  | nil =>
    rw [readDigits, Except.ok.injEq]
    constructor
    · rintro rfl
      exact ⟨nofun, rfl, within⟩
    · rintro ⟨-, hvalue, -⟩
      exact hvalue
  | cons c cs ih =>
    rw [readDigits]
    cases hdigit : digit? c with
    | none =>
      refine iff_of_false nofun ?_
      rintro ⟨digits, -⟩
      have hsome := digits c (List.mem_cons_self ..)
      rw [hdigit] at hsome
      cases hsome
    | some d =>
      have hvalue : valueFrom acc (c :: cs) = valueFrom (acc * 10 + d) cs := by
        simp [valueFrom, hdigit]
      have hfirst : (digit? c).isSome = true := by
        rw [hdigit]
        rfl
      simp only [List.forall_mem_cons, hfirst, true_and, hvalue]
      by_cases hle : acc * 10 + d ≤ bound
      · rw [if_pos hle]
        exact ih hle
      · rw [if_neg hle]
        refine iff_of_false nofun ?_
        rintro ⟨-, rfl, hbound⟩
        exact hle (Nat.le_trans (le_valueFrom cs _) hbound)

/-- Digits are read exactly when all of them are digits and the number stays within the
bound. -/
theorem exists_readDigits_iff {bound acc : Nat} (excess : Fault) {cs : List Char}
    (within : acc ≤ bound) :
    (∃ n, readDigits bound excess cs acc = .ok n)
      ↔ (∀ c ∈ cs, (digit? c).isSome) ∧ valueFrom acc cs ≤ bound := by
  simp only [readDigits_eq_ok_iff excess within, exists_and_left, exists_eq_left']

/-! ## Numerals -/

/-- Whether a text is digits that spell a number; a plus sign may stand in front. -/
def Spells (text : String) (n : Nat) : Prop :=
  ∃ digits, (text.toList = digits ∨ text.toList = '+' :: digits) ∧ digits ≠ []
    ∧ (∀ c ∈ digits, (digit? c).isSome) ∧ valueFrom 0 digits = n

/-- A plus sign is no digit, so a text spells one number at most. -/
theorem Spells.unique {text : String} {n k : Nat} (hn : Spells text n) (hk : Spells text k) :
    n = k := by
  obtain ⟨cs, hcs, -, digits, rfl⟩ := hn
  obtain ⟨ds, hds, -, digits', rfl⟩ := hk
  have clash : ∀ {cs ds : List Char}, (∀ c ∈ cs, (digit? c).isSome) → cs ≠ '+' :: ds := by
    rintro _ ds digits rfl
    exact absurd (digits '+' (List.mem_cons_self ..)) (by decide)
  rcases hcs with hcs | hcs <;> rcases hds with hds | hds
  · rw [← hcs, ← hds]
  · exact absurd (hcs.symm.trans hds) (clash digits)
  · exact absurd (hds.symm.trans hcs) (clash digits')
  · rw [(List.cons.inj (hcs.symm.trans hds)).2]

/-- A numeral without a sign, or behind one, is read as its digits are. -/
theorem readUnsigned_eq_ok_iff {bound n : Nat} {cs : List Char} :
    readUnsigned bound cs = .ok n
      ↔ ∃ digits, (cs = digits ∨ cs = '+' :: digits) ∧ digits ≠ []
        ∧ readDigits bound .tooLarge digits 0 = .ok n := by
  unfold readUnsigned
  split
  · refine iff_of_false nofun ?_
    rintro ⟨digits, rfl | h, nonempty, -⟩
    · exact nonempty rfl
    · cases h
  · refine iff_of_false nofun ?_
    rintro ⟨digits, rfl | h, nonempty, hread⟩
    · cases hread
    · exact nonempty (List.cons.inj h).2.symm
  · rename_i ds hds
    constructor
    · intro hread
      exact ⟨ds, .inr rfl, hds, hread⟩
    · rintro ⟨digits, rfl | h, -, hread⟩
      · cases hread
      · rw [(List.cons.inj h).2]
        exact hread
  · rename_i hempty _ hunsigned
    constructor
    · intro hread
      exact ⟨cs, .inl rfl, hempty, hread⟩
    · rintro ⟨digits, rfl | h, -, hread⟩
      · exact hread
      · exact absurd h (hunsigned digits)

/-- A number of 64 bits is read from a text exactly when the text spells it. -/
theorem read64?_eq_some_iff {text : String} {n : Nat} :
    read64? text = some n ↔ Spells text n ∧ n ≤ max64 := by
  have hread : read64? text = some n ↔ readUnsigned max64 text.toList = .ok n := by
    rw [read64?]
    cases readUnsigned max64 text.toList with
    | error e => exact iff_of_false nofun nofun
    | ok k => rw [Except.ok.injEq, Except.toOption, Option.some.injEq]
  rw [hread, readUnsigned_eq_ok_iff]
  simp only [readDigits_eq_ok_iff .tooLarge (Nat.zero_le _)]
  constructor
  · rintro ⟨digits, htext, nonempty, hdigits, hvalue, hle⟩
    exact ⟨⟨digits, htext, nonempty, hdigits, hvalue⟩, hle⟩
  · rintro ⟨⟨digits, htext, nonempty, hdigits, hvalue⟩, hle⟩
    exact ⟨digits, htext, nonempty, hdigits, hvalue, hle⟩

/-! ## Numbers as digits -/

theorem digit?_of_mem_ofNat {n : Nat} {c : Char} (h : c ∈ ofNat n) : (digit? c).isSome := by
  fun_induction ofNat n with
  | case1 n hn =>
    rw [List.mem_singleton.1 h, digit?_digit n hn]
    rfl
  | case2 n hn ih =>
    rcases List.mem_append.1 h with h | h
    · exact ih h
    · rw [List.mem_singleton.1 h, digit?_digit _ (Nat.mod_lt n (by omega))]
      rfl

/-- The digits of a number spell it. -/
theorem valueFrom_ofNat (n : Nat) : valueFrom 0 (ofNat n) = n := by
  fun_induction ofNat n with
  | case1 n hn => simp [valueFrom, digit?_digit n hn]
  | case2 n hn ih =>
    have hlast : valueFrom 0 (ofNat (n / 10) ++ [digit (n % 10)])
        = valueFrom 0 (ofNat (n / 10)) * 10 + n % 10 := by
      simp [valueFrom, digit?_digit _ (Nat.mod_lt n (by omega : 0 < 10))]
    rw [hlast, ih]
    omega

end Gatehouse.Numeral
