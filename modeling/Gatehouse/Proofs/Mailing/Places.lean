/-
  Gatehouse/Proofs/Mailing/Places.lean --- the mails of the outbox keep their places.

  Saving a batch never moves or removes a mail, whatever ids the mails have: it gives
  some mails their mark and adds others behind them.  What is marked is the first mail
  with the id of a mail of the batch; since the first pending mails are fetched, it is in
  the batch itself.

  Main definitions: `Mail.Marked`, `Mail.Kept`.
  Main statements: `Mail.mem_take_pending`, `Mail.Kept.saveMails`,
  `Mail.Kept.marked_of_blocked`.
-/
import Gatehouse.Proofs.Mailing.Marks
import Mathlib.Data.List.Forall2

set_option autoImplicit false

namespace Gatehouse

namespace Mail

/-- Whether a mail has at most got its mark, and that for a reason. -/
def Marked (Reason : Mail → Prop) (m m' : Mail) : Prop := m' = m ∨ m' = m.markMailed ∧ Reason m

/-- Whether mails have kept their places: some got their mark for a reason, and others
were added behind them. -/
inductive Kept (Reason : Mail → Prop) : List Mail → List Mail → Prop where
  | behind (added : List Mail) : Kept Reason [] added
  | cons {m m' : Mail} {mails mails' : List Mail} (mark : Marked Reason m m')
      (rest : Kept Reason mails mails') : Kept Reason (m :: mails) (m' :: mails')

theorem markMailed_of_mailed {m : Mail} (h : m.mailed = true) : m.markMailed = m := by
  cases m
  cases h
  rfl

/-- The first mail with an id. -/
def first? (id : Option Uuid) (mails : List Mail) : Option Mail := mails.find? fun m => m.id = id

/-- The first mail with the id of a mail among the first pending ones is one of them, if
it is pending. -/
theorem mem_take_pending {mails : List Mail} {k : Nat} {n m : Mail}
    (hn : n ∈ (pending mails).take k) (first : first? n.id mails = some m)
    (unmailed : m.mailed = false) : m ∈ (pending mails).take k := by
  have hfirst : first? n.id (pending mails) = some m := by
    rw [first?, List.find?_eq_some_iff_append] at first
    obtain ⟨hid, before, after, rfl, hnone⟩ := first
    have hbefore : ∀ b ∈ pending before, (!decide (b.id = n.id)) = true := by
      intro b hb
      exact hnone b (mem_pending.1 hb).1
    refine List.find?_eq_some_iff_append.2 ⟨hid, pending before, pending after, ?_, hbefore⟩
    simp [pending, unmailed]
  have hsome : (first? n.id ((pending mails).take k)).isSome := by
    rw [first?, List.find?_isSome]
    exact ⟨n, hn, decide_eq_true rfl⟩
  obtain ⟨x, hx⟩ := Option.isSome_iff_exists.1 hsome
  have hsame : first? n.id (pending mails) = some x := by
    rw [← List.take_append_drop k (pending mails), first?, List.find?_append]
    rw [first?] at hx
    rw [hx]
    rfl
  obtain rfl := Option.some.inj (hfirst.symm.trans hsame)
  exact List.mem_of_find?_eq_some hx

namespace Marked

variable {Reason : Mail → Prop} {m m' : Mail}

theorem id_eq (h : Marked Reason m m') : m'.id = m.id := by
  rcases h with rfl | ⟨rfl, -⟩
  · rfl
  · rfl

/-- A mail that is not marked is as it was. -/
theorem eq_of_pending (h : Marked Reason m m') (unmailed : m'.mailed = false) : m' = m := by
  rcases h with rfl | ⟨rfl, -⟩
  · rfl
  · cases unmailed

theorem mono {Reason' : Mail → Prop} (h : Marked Reason m m')
    (weaker : ∀ m, Reason m → Reason' m) : Marked Reason' m m' := by
  rcases h with rfl | ⟨rfl, hreason⟩
  · exact .inl rfl
  · exact .inr ⟨rfl, weaker m hreason⟩

theorem trans {m'' : Mail} (h : Marked Reason m m') (h' : Marked Reason m' m'') :
    Marked Reason m m'' := by
  rcases h with rfl | ⟨rfl, hreason⟩
  · exact h'
  · rcases h' with rfl | ⟨rfl, -⟩
    · exact .inr ⟨rfl, hreason⟩
    · exact .inr ⟨rfl, hreason⟩

/-- One more mark needs a reason only when there was none. -/
theorem mark (h : Marked Reason m m') (reason : m.mailed = false → Reason m) :
    Marked Reason m m'.markMailed := by
  cases hm : m.mailed with
  | true =>
    rcases h with rfl | ⟨rfl, hreason⟩
    · exact .inl (markMailed_of_mailed hm)
    · exact .inr ⟨rfl, hreason⟩
  | false =>
    rcases h with rfl | ⟨rfl, -⟩
    · exact .inr ⟨rfl, reason hm⟩
    · exact .inr ⟨rfl, reason hm⟩

end Marked

namespace Kept

variable {Reason Reason' : Mail → Prop} {mails mails₁ mails₂ : List Mail}

theorem refl (Reason : Mail → Prop) (mails : List Mail) : Kept Reason mails mails := by
  induction mails with
  | nil => exact .behind []
  | cons m mails ih => exact .cons (.inl rfl) ih

theorem mono (h : Kept Reason mails mails₁) (weaker : ∀ m, Reason m → Reason' m) :
    Kept Reason' mails mails₁ := by
  induction h with
  | behind added => exact .behind added
  | cons mark _ ih => exact .cons (mark.mono weaker) ih

theorem trans (h : Kept Reason mails mails₁) (h₁ : Kept Reason mails₁ mails₂) :
    Kept Reason mails mails₂ := by
  induction h generalizing mails₂ with
  | behind added => exact .behind mails₂
  | cons mark _ ih =>
    cases h₁ with
    | cons mark₁ rest₁ => exact .cons (mark.trans mark₁) (ih rest₁)

theorem append (h : Kept Reason mails mails₁) (added : List Mail) :
    Kept Reason mails (mails₁ ++ added) := by
  induction h with
  | behind before => exact .behind (before ++ added)
  | cons mark _ ih => exact .cons mark ih

/-- Marking the first mail with an id needs a reason for that mail only. -/
theorem markMailed (h : Kept Reason mails mails₁) {id : Uuid}
    (reason : ∀ m, first? (some id) mails = some m → m.mailed = false → Reason m) :
    Kept Reason mails (Memory.markMailed id mails₁) := by
  induction h with
  | behind added => exact .behind _
  | @cons m m' mails mails' mark rest ih =>
    rw [Memory.markMailed, mark.id_eq]
    by_cases hid : m.id = some id
    · have hfirst : first? (some id) (m :: mails) = some m :=
        List.find?_cons_of_pos (decide_eq_true hid)
      rw [if_pos hid]
      exact .cons (mark.mark (reason m hfirst)) rest
    · have hfirst : first? (some id) (m :: mails) = first? (some id) mails :=
        List.find?_cons_of_neg (by simpa using hid)
      rw [if_neg hid]
      refine .cons mark (ih fun n hn => reason n ?_)
      rwa [hfirst]

/-- Saving a mail adds a copy behind the others, or marks the first mail with its id. -/
theorem saveMail (h : Kept Reason mails mails₁) {b : Mail} (fresh : Uuid)
    (reason : b.mailed = true →
      ∀ m, first? b.id mails = some m → m.mailed = false → Reason m) :
    Kept Reason mails (Memory.saveMail mails₁ b fresh) := by
  unfold Memory.saveMail
  split
  · exact h.append _
  · rename_i id hid
    split
    · rename_i hmailed
      rw [hid] at reason
      exact h.markMailed (reason hmailed)
    · exact h

theorem saveMails (h : Kept Reason mails mails₁) (batch : List (Mail × Uuid))
    (reason : ∀ p ∈ batch, p.1.mailed = true →
      ∀ m, first? p.1.id mails = some m → m.mailed = false → Reason m) :
    Kept Reason mails (batch.foldl (fun l p => Memory.saveMail l p.1 p.2) mails₁) := by
  induction batch generalizing mails₁ with
  | nil => exact h
  | cons p batch ih =>
    have hfirst := h.saveMail p.2 (reason p List.mem_cons_self)
    exact ih hfirst fun q hq => reason q (List.mem_cons_of_mem p hq)

/-- A mail has its place behind the same mails as before. -/
theorem split {before after : List Mail} {m : Mail}
    (h : Kept Reason (before ++ m :: after) mails₁) :
    ∃ front m' back, mails₁ = front ++ m' :: back ∧ List.Forall₂ (Marked Reason) before front
      ∧ Marked Reason m m' := by
  induction before generalizing mails₁ with
  | nil =>
    cases h with
    | cons mark rest => exact ⟨[], _, _, rfl, .nil, mark⟩
  | cons b before ih =>
    cases h with
    | cons mark rest =>
      obtain ⟨front, m', back, rfl, hmarks, hmark⟩ := ih rest
      exact ⟨_ :: front, m', back, rfl, .cons mark hmarks, hmark⟩

end Kept

/-- There are no more pending mails of a sort than before. -/
theorem countP_le_of_marked {Reason : Mail → Prop} {before front : List Mail} (sort : Mail → Bool)
    (h : List.Forall₂ (Marked Reason) before front) :
    front.countP (fun b => !b.mailed && sort b) ≤ before.countP fun b => !b.mailed && sort b := by
  induction h with
  | nil => exact Nat.le_refl _
  | @cons m m' before front mark _ ih =>
    rw [List.countP_cons, List.countP_cons]
    refine Nat.add_le_add ih ?_
    cases hm : m'.mailed with
    | true => simp
    | false =>
      obtain rfl := mark.eq_of_pending hm
      simp [hm]

/-- When the first pending mails are all of a sort and a mail is not, those that stand
before it are enough of them. -/
theorem le_countP_of_blocked {front back : List Mail} {m : Mail} {k : Nat} {sort : Mail → Bool}
    (blocked : ∀ n ∈ (pending (front ++ m :: back)).take k, sort n = true)
    (other : sort m = false) (unmailed : m.mailed = false) :
    k ≤ front.countP fun b => !b.mailed && sort b := by
  have hpending : pending (front ++ m :: back) = pending front ++ m :: pending back := by
    simp [pending, unmailed]
  rw [hpending] at blocked
  have hlen : k ≤ (pending front).length := by
    by_contra hshort
    have hmem : m ∈ (pending front ++ m :: pending back).take k := by
      rw [List.take_append, List.mem_append]
      right
      obtain ⟨j, hj⟩ : ∃ j, k - (pending front).length = j + 1 :=
        ⟨k - (pending front).length - 1, by omega⟩
      rw [hj, List.take_succ_cons]
      exact List.mem_cons_self
    rw [blocked m hmem] at other
    cases other
  have htake : (pending front ++ m :: pending back).take k = (pending front).take k := by
    rw [List.take_append_of_le_length hlen]
  rw [htake] at blocked
  calc k = ((pending front).take k).length := (List.length_take_of_le hlen).symm
    _ = ((pending front).take k).countP sort := (List.countP_eq_length.2 blocked).symm
    _ ≤ (pending front).countP sort := (List.take_sublist k _).countP_le
    _ = front.countP fun b => !b.mailed && sort b := by
      rw [pending, List.countP_filter]
      exact List.countP_congr fun b _ => by rw [Bool.and_comm]

/-- A mail with few refused ones before it is marked once nothing but refused mails is
fetched. -/
theorem Kept.marked_of_blocked {Reason : Mail → Prop} {before after mails : List Mail} {m : Mail}
    {k : Nat} {refuses : Mail → Bool} (h : Kept Reason (before ++ m :: after) mails)
    (blocked : ∀ n ∈ (pending mails).take k, refuses n = true) (taken : refuses m = false)
    (few : before.countP (fun b => !b.mailed && refuses b) < k) (unmailed : m.mailed = false) :
    mails[before.length]? = some m.markMailed ∧ Reason m := by
  obtain ⟨front, m', back, rfl, hmarks, hmark⟩ := h.split
  have hplace : (front ++ m' :: back)[before.length]? = some m' := by
    rw [hmarks.length_eq, List.getElem?_append_right (Nat.le_refl _), Nat.sub_self]
    rfl
  rcases hmark with rfl | ⟨rfl, hreason⟩
  · have henough := le_countP_of_blocked blocked taken unmailed
    have hcount := countP_le_of_marked refuses hmarks
    omega
  · exact ⟨hplace, hreason⟩

end Mail

end Gatehouse
