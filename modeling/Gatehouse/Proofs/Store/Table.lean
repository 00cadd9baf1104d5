/-
  Gatehouse/Proofs/Store/Table.lean --- taking back what was done to a table.

  An insertion and a removal of one key cancel when they put the earlier value back.
  The values of a table are those that its keys have.

  Main statements: `Table.insert_restores`, `Table.erase_insert`,
  `Table.mem_values_iff`.
-/
import Gatehouse.Store.Table

set_option autoImplicit false

namespace Gatehouse.Table

variable {κ ν : Type} [Ord κ]

/-- The value of a key is among the entries. -/
theorem mem_of_valueIn [Std.LawfulEqOrd κ] {k : κ} {v : ν} {l : List (κ × ν)}
    (h : valueIn k l = some v) : (k, v) ∈ l := by
  induction l with
  | nil => simp [valueIn] at h
  | cons e rest ih =>
    rw [valueIn] at h
    split at h
    · rename_i same
      have hk : k = e.1 := Std.LawfulEqCmp.compare_eq_iff_eq.1 same
      have hv : e.2 = v := Option.some.inj h
      subst hk
      subst hv
      exact List.mem_cons_self
    · exact List.mem_cons_of_mem _ (ih h)

variable [Std.TransOrd κ] [Std.LawfulEqOrd κ]

/-- In ascending entries each entry gives its key its value. -/
theorem valueIn_of_mem {e : κ × ν} {l : List (κ × ν)}
    (hl : l.Pairwise fun a b => compare a.1 b.1 = .lt) (h : e ∈ l) :
    valueIn e.1 l = some e.2 := by
  induction l with
  | nil => cases h
  | cons a rest ih =>
    have ⟨first, others⟩ := List.pairwise_cons.1 hl
    rcases List.mem_cons.1 h with rfl | h
    · simp [valueIn]
    · have hne : compare e.1 a.1 ≠ .eq := by
        rw [Std.OrientedCmp.gt_iff_lt.2 (first e h)]
        simp
      rw [valueIn, if_neg hne]
      exact ih others h

/-- The values of a table are those that its keys have. -/
theorem mem_values_iff {t : Table κ ν} {v : ν} : v ∈ t.values ↔ ∃ k, t.get? k = some v := by
  constructor
  · intro h
    obtain ⟨e, he, rfl⟩ := List.mem_map.1 h
    exact ⟨e.1, valueIn_of_mem t.ascending he⟩
  · rintro ⟨k, hk⟩
    exact List.mem_map.2 ⟨(k, v), mem_of_valueIn hk, rfl⟩

variable [DecidableEq κ]

@[simp] theorem get?_insert_self (t : Table κ ν) (k : κ) (v : ν) :
    (t.insert k v).get? k = some v := by
  rw [get?_insert, if_pos rfl]

theorem get?_insert_of_ne (t : Table κ ν) {k j : κ} (v : ν) (h : j ≠ k) :
    (t.insert k v).get? j = t.get? j := by
  rw [get?_insert, if_neg h]

/-- Putting the earlier value back undoes an insertion. -/
theorem insert_restores {t : Table κ ν} {k : κ} {v : ν} (w : ν) (h : t.get? k = some v) :
    (t.insert k w).insert k v = t := by
  apply ext_get?
  intro j
  by_cases hj : j = k
  · subst hj
    rw [get?_insert_self, h]
  · rw [get?_insert_of_ne _ _ hj, get?_insert_of_ne _ _ hj]

/-- Removing a key undoes an insertion where there was no value. -/
theorem erase_insert {t : Table κ ν} {k : κ} (v : ν) (h : t.get? k = none) :
    (t.insert k v).erase k = t := by
  apply ext_get?
  intro j
  rw [get?_erase]
  by_cases hj : j = k
  · rw [if_pos hj, hj, h]
  · rw [if_neg hj, get?_insert_of_ne _ _ hj]

end Gatehouse.Table
