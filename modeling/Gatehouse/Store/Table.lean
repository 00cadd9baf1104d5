/-
  Gatehouse/Store/Table.lean --- finite maps.

  A table keeps its entries in ascending order of their keys, each key once.  So a
  table has only one form: two tables in which every key has the same value are
  equal, however they came about.

  Main definitions: `Table`, with `get?`, `insert`, `erase` and `values`.
  Main statements: `Table.get?_insert`, `Table.get?_erase`, `Table.ext_get?`.
-/

set_option autoImplicit false

namespace Gatehouse

/-- A finite map. -/
structure Table (κ ν : Type) [Ord κ] where
  /-- The keys with their values. -/
  entries : List (κ × ν)
  /-- The keys ascend. -/
  ascending : entries.Pairwise fun a b => compare a.1 b.1 = .lt

namespace Table

variable {κ ν : Type} [Ord κ]

/-- Two tables with the same entries are the same. -/
theorem ext_entries {s t : Table κ ν} (h : s.entries = t.entries) : s = t := by
  cases s
  cases t
  simp_all

instance [DecidableEq κ] [DecidableEq ν] : DecidableEq (Table κ ν) := fun s t =>
  if h : s.entries = t.entries then isTrue (ext_entries h) else isFalse fun e => h (e ▸ rfl)

/-! ## Operations -/

/-- A table without entries. -/
def empty : Table κ ν := ⟨[], .nil⟩

instance : Inhabited (Table κ ν) := ⟨empty⟩

/-- The value of a key in some entries. -/
def valueIn (k : κ) : List (κ × ν) → Option ν
  | [] => none
  | e :: rest => if compare k e.1 = .eq then some e.2 else valueIn k rest

/-- Some entries with a value for a key. -/
def placeIn (k : κ) (v : ν) : List (κ × ν) → List (κ × ν)
  | [] => [(k, v)]
  | e :: rest =>
      match compare k e.1 with
      | .lt => (k, v) :: e :: rest
      | .eq => (k, v) :: rest
      | .gt => e :: placeIn k v rest

/-- Some entries without a key. -/
def withoutKey (k : κ) (l : List (κ × ν)) : List (κ × ν) := l.filter fun e => compare k e.1 ≠ .eq

/-- The value of a key. -/
def get? (t : Table κ ν) (k : κ) : Option ν := valueIn k t.entries

/-- The number of entries. -/
def size (t : Table κ ν) : Nat := t.entries.length

/-- The values, in the order of their keys. -/
def values (t : Table κ ν) : List ν := t.entries.map Prod.snd

/-- Without a key. -/
def erase (t : Table κ ν) (k : κ) : Table κ ν :=
  ⟨withoutKey k t.entries, t.ascending.filter _⟩

/-- A key before all entries has no value. -/
theorem valueIn_eq_none {k : κ} {l : List (κ × ν)} (h : ∀ e ∈ l, compare k e.1 = .lt) :
    valueIn k l = none := by
  induction l with
  | nil => rfl
  | cons a rest ih =>
    rw [valueIn, if_neg (by simp [h a List.mem_cons_self])]
    exact ih fun e he => h e (List.mem_cons_of_mem _ he)

/-- The keys after a placement are the one placed and the earlier ones. -/
theorem mem_placeIn {k : κ} {v : ν} {l : List (κ × ν)} {e : κ × ν} (h : e ∈ placeIn k v l) :
    e = (k, v) ∨ e ∈ l := by
  induction l with
  | nil => simpa [placeIn] using h
  | cons a rest ih =>
    simp only [placeIn] at h
    split at h
    · simpa using h
    · rcases List.mem_cons.1 h with rfl | h
      · exact .inl rfl
      · exact .inr (List.mem_cons_of_mem _ h)
    · rcases List.mem_cons.1 h with rfl | h
      · exact .inr List.mem_cons_self
      · exact (ih h).imp id (List.mem_cons_of_mem _)

/-! ## Order -/

variable [Std.TransOrd κ] [Std.LawfulEqOrd κ]

/-- A placement keeps the order. -/
theorem ascending_placeIn (k : κ) (v : ν) {l : List (κ × ν)}
    (h : l.Pairwise fun a b => compare a.1 b.1 = .lt) :
    (placeIn k v l).Pairwise fun a b => compare a.1 b.1 = .lt := by
  induction l with
  | nil => simp [placeIn]
  | cons a rest ih =>
    have ⟨first, others⟩ := List.pairwise_cons.1 h
    simp only [placeIn]
    split
    · rename_i before
      refine List.pairwise_cons.2 ⟨fun e he => ?_, h⟩
      rcases List.mem_cons.1 he with rfl | he
      · exact before
      · exact Std.TransCmp.lt_trans before (first e he)
    · rename_i same
      have same : k = a.1 := Std.LawfulEqCmp.compare_eq_iff_eq.1 same
      exact List.pairwise_cons.2 ⟨fun e he => same ▸ first e he, others⟩
    · rename_i after
      refine List.pairwise_cons.2 ⟨fun e he => ?_, ih others⟩
      rcases mem_placeIn he with rfl | he
      · exact Std.OrientedCmp.gt_iff_lt.1 after
      · exact first e he

/-- With a value for a key, in the place of an earlier one. -/
def insert (t : Table κ ν) (k : κ) (v : ν) : Table κ ν :=
  ⟨placeIn k v t.entries, ascending_placeIn k v t.ascending⟩

/-! ## The value of each key -/

theorem valueIn_placeIn (k j : κ) (v : ν) (l : List (κ × ν)) :
    valueIn j (placeIn k v l) = if compare j k = .eq then some v else valueIn j l := by
  induction l with
  | nil => rfl
  | cons a rest ih =>
    simp only [placeIn]
    split
    · rfl
    · rename_i same
      have same : k = a.1 := Std.LawfulEqCmp.compare_eq_iff_eq.1 same
      subst same
      by_cases h : compare j a.1 = .eq <;> simp [valueIn, h]
    · rename_i after
      by_cases h : compare j a.1 = .eq
      · have : j = a.1 := Std.LawfulEqCmp.compare_eq_iff_eq.1 h
        subst this
        have : compare a.1 k ≠ .eq := by rw [Std.OrientedCmp.gt_iff_lt.1 after]; simp
        simp [valueIn, this]
      · simp [valueIn, h, ih]

/-- After an insertion the key has the new value and the others have theirs. -/
theorem get?_insert [DecidableEq κ] (t : Table κ ν) (k j : κ) (v : ν) :
    (t.insert k v).get? j = if j = k then some v else t.get? j := by
  simp only [get?, insert, valueIn_placeIn, Std.LawfulEqCmp.compare_eq_iff_eq]

omit [Std.TransOrd κ] in
theorem valueIn_withoutKey (k j : κ) (l : List (κ × ν)) :
    valueIn j (withoutKey k l) = if compare j k = .eq then none else valueIn j l := by
  induction l with
  | nil => simp [withoutKey, valueIn]
  | cons a rest ih =>
    simp only [withoutKey, List.filter_cons] at ih ⊢
    by_cases h : compare k a.1 = .eq
    · have : k = a.1 := Std.LawfulEqCmp.compare_eq_iff_eq.1 h
      subst this
      by_cases hj : compare j a.1 = .eq <;> simp_all [valueIn]
    · by_cases hj : compare j k = .eq
      · have : j = k := Std.LawfulEqCmp.compare_eq_iff_eq.1 hj
        subst this
        simp_all [valueIn]
      · simp_all [valueIn]

omit [Std.TransOrd κ] in
/-- After a removal the key has no value and the others have theirs. -/
theorem get?_erase [DecidableEq κ] (t : Table κ ν) (k j : κ) :
    (t.erase k).get? j = if j = k then none else t.get? j := by
  simp only [get?, erase, valueIn_withoutKey, Std.LawfulEqCmp.compare_eq_iff_eq]

/-- Entries in ascending order are determined by the values of the keys. -/
theorem eq_of_valueIn {l r : List (κ × ν)} (hl : l.Pairwise fun a b => compare a.1 b.1 = .lt)
    (hr : r.Pairwise fun a b => compare a.1 b.1 = .lt)
    (h : ∀ k, valueIn k l = valueIn k r) : l = r := by
  induction l generalizing r with
  | nil =>
    cases r with
    | nil => rfl
    | cons b r => simpa [valueIn] using h b.1
  | cons a l ih =>
    cases r with
    | nil => simpa [valueIn] using h a.1
    | cons b r =>
      have ⟨beforeL, restL⟩ := List.pairwise_cons.1 hl
      have ⟨beforeR, restR⟩ := List.pairwise_cons.1 hr
      have same : a.1 = b.1 := by
        cases hab : compare a.1 b.1 with
        | eq => exact Std.LawfulEqCmp.compare_eq_iff_eq.1 hab
        | lt =>
          have none := valueIn_eq_none (k := a.1) (l := b :: r) fun e he => by
            rcases List.mem_cons.1 he with rfl | he
            · exact hab
            · exact Std.TransCmp.lt_trans hab (beforeR e he)
          have := h a.1
          rw [none] at this
          simp [valueIn] at this
        | gt =>
          have hba := Std.OrientedCmp.gt_iff_lt.1 hab
          have none := valueIn_eq_none (k := b.1) (l := a :: l) fun e he => by
            rcases List.mem_cons.1 he with rfl | he
            · exact hba
            · exact Std.TransCmp.lt_trans hba (beforeL e he)
          have := h b.1
          rw [none] at this
          simp [valueIn] at this
      have first : a = b := by
        have := h a.1
        simp only [valueIn, same, Std.ReflCmp.compare_self, if_true] at this
        exact Prod.ext same (Option.some.inj this)
      subst first
      refine congrArg _ (ih restL restR fun k => ?_)
      by_cases hk : compare k a.1 = .eq
      · have hk : k = a.1 := Std.LawfulEqCmp.compare_eq_iff_eq.1 hk
        subst hk
        rw [valueIn_eq_none beforeL, valueIn_eq_none beforeR]
      · simpa [valueIn, hk] using h k

/-- Two tables are equal when every key has the same value in both. -/
theorem ext_get? {s t : Table κ ν} (h : ∀ k, s.get? k = t.get? k) : s = t :=
  ext_entries (eq_of_valueIn s.ascending t.ascending h)

end Table

end Gatehouse
