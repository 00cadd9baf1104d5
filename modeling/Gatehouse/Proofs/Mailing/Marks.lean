/-
  Gatehouse/Proofs/Mailing/Marks.lean --- which mails of the outbox are marked.

  Saving a batch marks, among the mails that are kept, the ones that the batch has
  marked.  As long as no two mails have one id, this leaves every mail in its place and
  changes nothing but the mark.

  Main definitions: `Mail.pending`, `Mail.markedIn`, `Memory.markedBy`.
  Main statement: `Memory.saveBatch_cases`.
-/
import Gatehouse.Store.Memory
import Mathlib.Data.List.Nodup

set_option autoImplicit false

namespace Gatehouse

/-! ## Mails -/

namespace Mail

/-- The mails that are not delivered. -/
def pending (mails : List Mail) : List Mail := mails.filter fun m => !m.mailed

/-- The mail, marked if it is one of some mails. -/
def markedIn (accepted : List Mail) (m : Mail) : Mail :=
  if m ∈ accepted then m.markMailed else m

theorem id_markedIn (accepted : List Mail) (m : Mail) :
    (m.markedIn accepted).id = m.id := by
  unfold markedIn
  split
  · rfl
  · rfl

theorem markedIn_nil (m : Mail) : m.markedIn [] = m := if_neg List.not_mem_nil

theorem map_markedIn_nil (mails : List Mail) : mails.map (markedIn []) = mails := by
  rw [List.map_congr_left fun m _ => markedIn_nil m, List.map_id']

theorem map_id_markedIn (accepted mails : List Mail) :
    (mails.map (markedIn accepted)).map Mail.id = mails.map Mail.id := by
  rw [List.map_map]
  exact List.map_congr_left fun m _ => id_markedIn accepted m

theorem mem_pending {mails : List Mail} {m : Mail} :
    m ∈ pending mails ↔ m ∈ mails ∧ m.mailed = false := by
  rw [pending, List.mem_filter, Bool.not_eq_true']

theorem nodup_pending {mails : List Mail} (distinct : (mails.map Mail.id).Nodup) :
    (pending mails).Nodup :=
  (distinct.of_map Mail.id).sublist List.filter_sublist

/-- Some of distinct mails and the others are all of them. -/
theorem length_filter_notMem {mails accepted : List Mail} (among : accepted.Sublist mails)
    (distinct : mails.Nodup) :
    (mails.filter fun m => m ∉ accepted).length + accepted.length = mails.length := by
  have hperm : (mails.filter fun m => m ∈ accepted).Perm accepted := by
    refine (List.perm_ext_iff_of_nodup (distinct.filter _) (distinct.sublist among)).2 fun m => ?_
    rw [List.mem_filter, decide_eq_true_eq]
    exact and_iff_right_of_imp fun hm => among.subset hm
  have hsplit := List.length_eq_length_filter_add (l := mails) fun m => decide (m ∈ accepted)
  rw [hperm.length_eq] at hsplit
  simp only [decide_not]
  omega

/-- Marking twice is marking once, when only mails that are not marked are to be. -/
theorem markedIn_markedIn {later earlier : List Mail} (unmarked : ∀ m ∈ later, m.mailed = false)
    (m : Mail) : (m.markedIn earlier).markedIn later = m.markedIn (later ++ earlier) := by
  have hfresh : ∀ n : Mail, n.markMailed ∉ later := by
    intro n hn
    exact nomatch unmarked _ hn
  unfold markedIn
  by_cases hearlier : m ∈ earlier
  · rw [if_pos hearlier, if_neg (hfresh m), if_pos (List.mem_append_right _ hearlier)]
  · rw [if_neg hearlier]
    by_cases hlater : m ∈ later
    · rw [if_pos hlater, if_pos (List.mem_append_left _ hlater)]
    · rw [if_neg hlater, if_neg fun h => (List.mem_append.1 h).elim hlater hearlier]

theorem mailed_markedIn (accepted : List Mail) (m : Mail) :
    (m.markedIn accepted).mailed = (decide (m ∈ accepted) || m.mailed) := by
  unfold markedIn
  by_cases h : m ∈ accepted
  · rw [if_pos h, decide_eq_true h]
    rfl
  · rw [if_neg h, decide_eq_false h]
    rfl

/-- The mails that stay pending when some are marked. -/
theorem pending_map_markedIn (accepted mails : List Mail) :
    pending (mails.map (markedIn accepted)) = (pending mails).filter fun m => m ∉ accepted := by
  have hpending : ∀ m : Mail, (!(m.markedIn accepted).mailed)
      = (decide (m ∉ accepted) && !m.mailed) := by
    intro m
    rw [mailed_markedIn, Bool.not_or, decide_not]
  have hkept : ∀ m ∈ (pending mails).filter fun m => m ∉ accepted, m.markedIn accepted = m := by
    intro m hm
    exact if_neg (of_decide_eq_true (List.mem_filter.1 hm).2)
  have hfilter : (mails.filter fun m => !(m.markedIn accepted).mailed)
      = (pending mails).filter fun m => m ∉ accepted := by
    rw [pending, List.filter_filter]
    exact List.filter_congr fun m _ => hpending m
  calc pending (mails.map (markedIn accepted))
      = (mails.filter fun m => !(m.markedIn accepted).mailed).map (markedIn accepted) :=
        List.filter_map
    _ = ((pending mails).filter fun m => m ∉ accepted).map (markedIn accepted) := by rw [hfilter]
    _ = (pending mails).filter fun m => m ∉ accepted := by
        rw [List.map_congr_left hkept, List.map_id']

/-- Of mails with distinct ids, one is told by its id. -/
theorem eq_of_id_eq {mails : List Mail} (distinct : (mails.map Mail.id).Nodup) {m n : Mail}
    (hm : m ∈ mails) (hn : n ∈ mails) (h : m.id = n.id) : m = n :=
  List.inj_on_of_nodup_map distinct hm hn h

end Mail

namespace Memory

/-- The mail, marked if a batch has it marked. -/
def markedBy (batch : List Mail) (m : Mail) : Mail :=
  if ∃ b ∈ batch, b.mailed = true ∧ b.id = m.id then m.markMailed else m

theorem id_markedBy (batch : List Mail) (m : Mail) : (markedBy batch m).id = m.id := by
  unfold markedBy
  split
  · rfl
  · rfl

theorem markedBy_nil (m : Mail) : markedBy [] m = m := if_neg fun ⟨_, hb, _⟩ => List.not_mem_nil hb

theorem markedBy_singleton (b m : Mail) :
    markedBy [b] m = if b.mailed = true ∧ b.id = m.id then m.markMailed else m := by
  rw [markedBy]
  refine if_congr ?_ rfl rfl
  constructor
  · rintro ⟨c, hc, h⟩
    rwa [List.mem_singleton.1 hc] at h
  · intro h
    exact ⟨b, List.mem_singleton_self b, h⟩

/-- One mail of a batch after the other marks what the batch marks. -/
theorem markedBy_cons (b : Mail) (batch : List Mail) (m : Mail) :
    markedBy batch (markedBy [b] m) = markedBy (b :: batch) m := by
  have hlater : ∀ n : Mail, n.id = m.id → markedBy batch n
      = if ∃ c ∈ batch, c.mailed = true ∧ c.id = m.id then n.markMailed else n := by
    intro n hn
    rw [markedBy, hn]
  rw [hlater _ (id_markedBy [b] m), markedBy_singleton, markedBy]
  by_cases hfirst : b.mailed = true ∧ b.id = m.id
  · have hall : ∃ c ∈ b :: batch, c.mailed = true ∧ c.id = m.id :=
      ⟨b, List.mem_cons_self, hfirst⟩
    rw [if_pos hfirst, if_pos hall]
    split
    · rfl
    · rfl
  · rw [if_neg hfirst]
    refine if_congr ?_ rfl rfl
    rw [List.exists_mem_cons_iff]
    exact (or_iff_right hfirst).symm

/-- Where ids are distinct, the first mail with an id is the only one. -/
theorem markMailed_eq_map {id : Uuid} {mails : List Mail}
    (distinct : (mails.map Mail.id).Nodup) :
    markMailed id mails = mails.map fun m => if m.id = some id then m.markMailed else m := by
  induction mails with
  | nil => rfl
  | cons m mails ih =>
    rw [List.map_cons, List.nodup_cons] at distinct
    rw [markMailed, List.map_cons]
    by_cases hm : m.id = some id
    · rw [if_pos hm, if_pos hm]
      have hothers : ∀ n ∈ mails, (if n.id = some id then n.markMailed else n) = n := by
        intro n hn
        refine if_neg fun hid => distinct.1 ?_
        rw [hm, ← hid]
        exact List.mem_map_of_mem hn
      rw [List.map_congr_left hothers, List.map_id']
    · rw [if_neg hm, if_neg hm, ih distinct.2]

/-- A stored mail of a batch marks its own mail, if it is marked, and adds none. -/
theorem saveMail_eq_map {b : Mail} {mails : List Mail} (stored : b.id ≠ none)
    (distinct : (mails.map Mail.id).Nodup) (fresh : Uuid) :
    saveMail mails b fresh = mails.map (markedBy [b]) := by
  obtain ⟨id, hid⟩ := Option.ne_none_iff_exists'.1 stored
  have hmarks := List.map_congr_left (l := mails) fun m _ => markedBy_singleton b m
  rw [saveMail, hid, hmarks]
  dsimp only
  by_cases hmailed : b.mailed = true
  · rw [if_pos hmailed, markMailed_eq_map distinct]
    refine List.map_congr_left fun m _ => if_congr ?_ rfl rfl
    rw [hid, eq_comm, and_iff_right hmailed]
  · have hnone : ∀ m ∈ mails, (if b.mailed = true ∧ b.id = m.id then m.markMailed else m) = m :=
      fun m _ => if_neg fun h => hmailed h.1
    rw [if_neg hmailed, List.map_congr_left hnone, List.map_id']

/-- A batch of stored mails marks those that it has marked, and adds none. -/
theorem foldl_saveMail {batch : List Mail} {fresh : List Uuid} {mails : List Mail}
    (stored : ∀ b ∈ batch, b.id ≠ none) (enough : fresh.length = batch.length)
    (distinct : (mails.map Mail.id).Nodup) :
    (batch.zip fresh).foldl (fun l p => saveMail l p.1 p.2) mails
      = mails.map (markedBy batch) := by
  induction batch generalizing fresh mails with
  | nil =>
    rw [List.zip_nil_left, List.foldl_nil, List.map_congr_left fun m _ => markedBy_nil m,
      List.map_id']
  | cons b batch ih =>
    cases fresh with
    | nil => cases enough
    | cons f fresh =>
      have hids : (mails.map (markedBy [b])).map Mail.id = mails.map Mail.id := by
        rw [List.map_map]
        exact List.map_congr_left fun m _ => id_markedBy [b] m
      have hrest := ih (fun c hc => stored c (List.mem_cons_of_mem _ hc)) (Nat.succ.inj enough)
        (hids ▸ distinct)
      rw [List.zip_cons_cons, List.foldl_cons,
        saveMail_eq_map (stored b List.mem_cons_self) distinct, hrest, List.map_map]
      exact List.map_congr_left fun m _ => markedBy_cons b batch m

/-- A batch of stored mails is saved as a whole, or nothing of it is. -/
theorem saveBatch_cases {s s' : Memory} {batch : List Mail} {fresh : List Uuid}
    {result : Except Failure Unit} (stored : ∀ b ∈ batch, b.id ≠ none)
    (enough : fresh.length = batch.length) (distinct : (s.mails.map Mail.id).Nodup)
    (h : s.saveBatch fresh batch = (result, s')) :
    s'.batches = s.batches
      ∧ ((result = .ok () ∧ s'.mails = s.mails.map (markedBy batch))
        ∨ ((∃ e, result = .error e) ∧ s'.mails = s.mails)) := by
  unfold saveBatch at h
  dsimp only at h
  split at h
  · cases h
    exact ⟨rfl, .inr ⟨⟨_, rfl⟩, rfl⟩⟩
  · cases h
    exact ⟨rfl, .inl ⟨rfl, foldl_saveMail stored enough distinct⟩⟩

/-- Without planned batches the first mails that are not delivered are fetched. -/
theorem fetch_eq {s : Memory} (unplanned : s.batches = []) (limit : Nat) :
    s.fetch limit = ((Mail.pending s.mails).take limit, { s with fetches := s.fetches + 1 }) := by
  rw [fetch, unplanned]
  rfl

end Memory

end Gatehouse
