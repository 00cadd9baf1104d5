/-
  Gatehouse/Proofs/Mailing/Queueing.lean --- units of work that queue mails at the same time.

  A queued mail is in the outbox at once, for all to see, and a rollback takes out the mails
  of its own unit of work one by one, while others are queued in between.  Each unit of work
  makes its own requests in order, and the requests of all of them are made of one outbox in
  any order, which may go out of order and back in between.

  What the outbox holds at any point is told by the requests so far: what it held at first
  and what was queued, without what was taken out.  A unit of work takes out what it has
  queued and nothing else, and only when it is rolled back, so in the end the others have
  theirs.  All that this needs is that ids which are drawn are fresh.

  Main definitions: `MailJob`, `OutboxStep`, `Interleaved`, `Interleaved.Fresh`.
  Main statements: `MailJob.orderly_of_runs`, `Interleaved.keeps_committed`.
-/
import Gatehouse.Proofs.Store.Answering
import Gatehouse.Proofs.Work.Settling
import Mathlib.Data.List.Nodup

set_option autoImplicit false

namespace Gatehouse

open Dialogue UnitOfWork

/-! ## Units of work that queue mails -/

/-- What a unit of work does with mails: it queues one after the other, each in view of how
the ones before it went, and then it is ended. -/
inductive MailJob where
  | commit
  | rollback
  | queue (mail : Mail) (next : Except Failure Unit → MailJob)

namespace MailJob

/-- How a unit of work was ended. -/
inductive Ending where
  | committed (result : Except Failure Unit)
  | rolledBack

/-- Whether a unit of work was committed. -/
def Ending.isCommitted : Ending → Bool
  | .committed _ => true
  | .rolledBack => false

theorem Ending.isCommitted_iff {e : Ending} : e.isCommitted ↔ e ≠ .rolledBack := by
  cases e with
  | committed result => exact iff_of_true rfl nofun
  | rolledBack => exact iff_of_false nofun fun h => h rfl

section

variable {m : Type → Type} [Monad m] [MonadLog m] {K : UnitKinds} [UnitActions m K]
  [MailQueue m K]

/-- Goes on with a unit of work. -/
def goOn : MailJob → UnitOfWork K → m Ending
  | .commit, u => do
      let result ← u.commit
      pure (.committed result)
  | .rollback, u => do
      u.rollback
      pure .rolledBack
  | .queue mail next, u => do
      let (result, v) ← (enqueueMail mail).runOn u
      (next result).goOn v

/-- The whole of a unit of work. -/
def run [MonadRandom m] (job : MailJob) : m Ending := do
  let u ← UnitOfWork.start
  job.goOn u

end

end MailJob

/-! ## What a request does to the outbox -/

namespace Memory

/-- The id and the mail of a request that has queued one; the id is the one that its undo
action tells. -/
def queued? : Exchange Kinds → Option (Uuid × Mail)
  | ⟨.write (.enqueue mail) _, (.ok (), v)⟩ =>
      match v.undos.getLast? with
      | some (.queued id) => some (id, mail)
      | _ => none
  | _ => none

/-- The id of a request that takes out a mail. -/
def dropped? : Exchange Kinds → Option Uuid
  | ⟨.runUndo (.queued id), _⟩ => some id
  | _ => none

variable {s s' : Memory}

/-- A mail is queued under some id, or the queue is out of order. -/
theorem Answers.enqueued {mail : Mail} {u : UnitOfWork Kinds}
    {r : Except Failure Unit × UnitOfWork Kinds} (h : Answers s ⟨.write (.enqueue mail) u, r⟩ s') :
    (∃ id, r = (.ok (), u.addUndo (.queued id))
        ∧ s'.mails = s.mails ++ [{ mail with id := some id }])
      ∨ ∃ e, r = (.error e, u) ∧ s'.mails = s.mails := by
  obtain ⟨rt, rt', rfl, rfl, hrun⟩ := h
  have hrun := (MailQueue.runOn_enqueue u rt mail).symm.trans hrun
  cases hwrite : rt.world.memory.enqueue (rt.entropy.idAt rt.entropy.drawn) mail with
  | ok w =>
    rw [hwrite] at hrun
    obtain rfl := enqueue_ok hwrite
    cases hrun
    exact .inl ⟨_, rfl, rfl⟩
  | error e =>
    rw [hwrite] at hrun
    cases hrun
    exact .inr ⟨e, rfl, rfl⟩

theorem queued?_enqueued (mail : Mail) (u : UnitOfWork Kinds) (id : Uuid) :
    queued? ⟨.write (.enqueue mail) u, (.ok (), u.addUndo (.queued id))⟩ = some (id, mail) := by
  simp only [queued?, UnitOfWork.addUndo, List.getLast?_concat]

theorem withCredentials_mails (kind : CredentialKind) (t : Table String Credential) :
    (s.withCredentials kind t).mails = s.mails := by
  cases kind with
  | activation => rfl
  | recovery => rfl

/-- A write that leaves the mails alone when it takes effect leaves them alone. -/
theorem mails_of_outcome {α : Type} {u : UnitOfWork Kinds} {rt rt' : Runtime Premises}
    {result : Except Failure (Written α)} {r : Except Failure α × UnitOfWork Kinds}
    (h : outcome u rt result = (.ok r, rt')) (hs : rt.world.memory = s)
    (same : ∀ w, result = .ok w → w.memory.mails = s.mails) :
    rt'.world.memory.mails = s.mails := by
  obtain ⟨w, hw, hmemory⟩ | ⟨-, hmemory⟩ := outcome_cases h
  · rw [hmemory, same w hw]
  · rw [hmemory, hs]

/-- A request puts a mail last, takes out the mails with an id, or leaves all mails. -/
theorem Answers.mails {x : Exchange Kinds} (h : Answers s x s') :
    (∃ id mail, queued? x = some (id, mail) ∧ dropped? x = none
        ∧ s'.mails = s.mails ++ [{ mail with id := some id }])
      ∨ (∃ id, queued? x = none ∧ dropped? x = some id
        ∧ s'.mails = s.mails.filter fun m => m.id ≠ some id)
      ∨ queued? x = none ∧ dropped? x = none ∧ s'.mails = s.mails := by
  rcases x with ⟨request, answer⟩
  cases request with
  | write w u =>
    cases w with
    | enqueue mail =>
      obtain ⟨id, rfl, hmails⟩ | ⟨e, rfl, hmails⟩ := h.enqueued
      · exact .inl ⟨id, mail, queued?_enqueued mail u id, rfl, hmails⟩
      · exact .inr (.inr ⟨rfl, rfl, hmails⟩)
    | saveUser user =>
      obtain ⟨rt, rt', rfl, rfl, hrun⟩ := h
      have hrun := (UserStore.runOn_save u rt user).symm.trans hrun
      refine .inr (.inr ⟨rfl, rfl, mails_of_outcome hrun rfl ?_⟩)
      intro w hw
      rw [saveUser_ok hw]
      rfl
    | activateUser id =>
      obtain ⟨rt, rt', rfl, rfl, hrun⟩ := h
      have hrun := (UserStore.runOn_activate u rt id).symm.trans hrun
      refine .inr (.inr ⟨rfl, rfl, mails_of_outcome hrun rfl ?_⟩)
      intro w hw
      obtain ⟨user, -, rfl⟩ := activateUser_ok hw
      rfl
    | saveCredential kind c =>
      obtain ⟨rt, rt', rfl, rfl, hrun⟩ := h
      have hrun := (CredentialStore.runOn_save u rt kind c).symm.trans hrun
      refine .inr (.inr ⟨rfl, rfl, mails_of_outcome hrun rfl ?_⟩)
      intro w hw
      rw [saveCredential_ok hw]
      exact withCredentials_mails _ _
    | deleteCredential kind token =>
      obtain ⟨rt, rt', rfl, rfl, hrun⟩ := h
      have hrun := (CredentialStore.runOn_delete u rt kind token).symm.trans hrun
      refine .inr (.inr ⟨rfl, rfl, mails_of_outcome hrun rfl ?_⟩)
      intro w hw
      obtain ⟨-, rfl⟩ | ⟨c, -, rfl⟩ := deleteCredential_ok hw
      · rfl
      · exact withCredentials_mails _ _
  | runUndo a =>
    obtain ⟨rt, rt', rfl, rfl, hrun⟩ := h
    cases hrun
    cases a with
    | user id earlier => cases earlier <;> exact .inr (.inr ⟨rfl, rfl, rfl⟩)
    | saved kind token => exact .inr (.inr ⟨rfl, rfl, withCredentials_mails _ _⟩)
    | deleted kind c => exact .inr (.inr ⟨rfl, rfl, withCredentials_mails _ _⟩)
    | queued id => exact .inr (.inl ⟨id, rfl, rfl, rfl⟩)
  | ask q =>
    obtain ⟨rt, rt', rfl, rfl, hrun⟩ := h
    cases q <;> (cases hrun; exact .inr (.inr ⟨rfl, rfl, rfl⟩))
  | log | freshId | freshToken | freshBytes =>
    obtain ⟨rt, rt', rfl, rfl, hrun⟩ := h
    cases hrun
    exact .inr (.inr ⟨rfl, rfl, rfl⟩)
  | commitHandle handle => exact Empty.elim handle
  | rollbackHandle handle => exact Empty.elim handle
  | runFinish a => exact Empty.elim a

end Memory

/-! ## One unit of work -/

namespace MailJob

open Memory (queued? dropped? Answers)

/-- Whether what is said in a unit of work is in order: a mail is taken out only when it was
queued before, a rollback takes out all that was queued, and a commit succeeds and takes out
nothing. -/
structure Orderly (said : List (Exchange Memory.Kinds)) (ending : Ending) : Prop where
  earlier : ∀ before after, said = before ++ after →
    ∀ id ∈ before.filterMap dropped?, ∃ mail, (id, mail) ∈ before.filterMap queued?
  undone : ending = .rolledBack → ∀ id mail, (id, mail) ∈ said.filterMap queued? →
    id ∈ said.filterMap dropped?
  kept : ending = .rolledBack ∨ ending = .committed (.ok ()) ∧ said.filterMap dropped? = []

/-- Queueing a mail is one request, and one more for the log when it has succeeded. -/
theorem runs_enqueueMail {mail : Mail} {u v : UnitOfWork Memory.Kinds}
    {said : List (Exchange Memory.Kinds)} {r : Except Failure Unit}
    (h : ((enqueueMail mail).runOn u : Dialogue Memory.Kinds _).Runs said (r, v)) :
    (r = .ok () ∧ said = [⟨.write (.enqueue mail) u, (.ok (), v)⟩, ⟨.log (queuedEvent mail), ()⟩])
      ∨ ∃ e, r = .error e ∧ said = [⟨.write (.enqueue mail) u, (.error e, v)⟩] := by
  obtain ⟨⟨_ | ⟨⟩, w⟩, rest, rfl, hrest⟩ := h
  · obtain ⟨rfl, heq⟩ := hrest
    cases heq
    exact .inr ⟨_, rfl, rfl⟩
  · obtain ⟨⟨⟩, _, rfl, rfl, heq⟩ := hrest
    cases heq
    exact .inl ⟨rfl, rfl⟩

/-- With stores in memory, what is said in a unit of work is what queues its mails, and then
the log of its commit, or the undoing of what was queued by then. -/
theorem said_of_runs_goOn {job : MailJob} {u : UnitOfWork Memory.Kinds}
    {said : List (Exchange Memory.Kinds)} {ending : Ending}
    (h : (job.goOn u : Dialogue Memory.Kinds Ending).Runs said ending)
    (answered : ∀ x ∈ said, ∃ s s', Answers s x s') :
    ∃ front back, said = front ++ back ∧ front.filterMap dropped? = []
      ∧ (ending = .committed (.ok ()) ∧ back = [⟨.log committedNote, ()⟩]
        ∨ ending = .rolledBack
          ∧ back = undoing (u.undos ++ (front.filterMap queued?).map fun q => .queued q.1)) := by
  induction job generalizing u said with
  | commit =>
    obtain ⟨first, r, rest, rfl, hcommit, rfl, rfl⟩ := runs_bind.1 h
    obtain ⟨outcomes, hlength, rfl, rfl⟩ := runs_commit.1 hcommit
    rcases u with ⟨id, _ | handle, undos, _ | ⟨a, finishers⟩⟩
    · obtain rfl := List.eq_nil_of_length_eq_zero hlength
      exact ⟨[], _, rfl, rfl, .inl ⟨rfl, rfl⟩⟩
    · exact nomatch a
    · exact nomatch handle
    · exact nomatch handle
  | rollback =>
    obtain ⟨first, r, rest, rfl, hrollback, rfl, rfl⟩ := runs_bind.1 h
    obtain ⟨discarded, rfl⟩ := runs_rollback.1 hrollback
    rcases u with ⟨id, _ | handle, undos, finishers⟩
    · refine ⟨[], undoing undos, List.append_nil _, rfl, .inr ⟨rfl, ?_⟩⟩
      rw [List.filterMap_nil, List.map_nil, List.append_nil]
    · exact nomatch handle
  | queue mail next ih =>
    obtain ⟨first, ⟨r, v⟩, rest, rfl, hqueue, hrest⟩ := runs_bind.1 h
    obtain ⟨front, back, rfl, hfront, hback⟩ :=
      ih r hrest fun x hx => answered x (List.mem_append_right _ hx)
    obtain ⟨rfl, rfl⟩ | ⟨e, rfl, rfl⟩ := runs_enqueueMail hqueue
    · obtain ⟨s, s', hwrite⟩ := answered _ List.mem_cons_self
      obtain ⟨id, heq, -⟩ | ⟨e, heq, -⟩ := hwrite.enqueued
      · cases heq
        refine ⟨_, back, (List.append_assoc _ _ _).symm, ?_, ?_⟩
        · rw [List.filterMap_append, hfront]
          rfl
        · rw [List.filterMap_append, List.filterMap_cons, Memory.queued?_enqueued]
          rw [UnitOfWork.addUndo, List.append_assoc] at hback
          exact hback
      · cases heq
    · obtain ⟨s, s', hwrite⟩ := answered _ List.mem_cons_self
      obtain ⟨id, heq, -⟩ | ⟨e', heq, -⟩ := hwrite.enqueued
      · cases heq
      · cases heq
        refine ⟨_, back, (List.append_assoc _ _ _).symm, ?_, ?_⟩
        · rw [List.filterMap_append, hfront]
          rfl
        · rw [List.filterMap_append]
          exact hback

/-- Undoing takes out what was queued, and queues nothing. -/
theorem filterMap_undoing (queued : List (Uuid × Mail)) :
    (undoing (K := Memory.Kinds) (queued.map fun q => .queued q.1)).filterMap dropped?
        = queued.map Prod.fst
      ∧ (undoing (K := Memory.Kinds) (queued.map fun q => .queued q.1)).filterMap queued? = [] := by
  induction queued with
  | nil => exact ⟨rfl, rfl⟩
  | cons q queued ih => exact ⟨congrArg (q.1 :: ·) ih.1, ih.2⟩

/-- Mails that are queued, and then at most the undoing of it, are in order. -/
theorem Orderly.of_parts {front back : List (Exchange Memory.Kinds)} {ending : Ending}
    (hfront : front.filterMap dropped? = [])
    (hback : ending = .committed (.ok ()) ∧ back = [⟨.log committedNote, ()⟩]
      ∨ ending = .rolledBack
        ∧ back = undoing (K := Memory.Kinds)
          ((front.filterMap queued?).map fun q => .queued q.1)) :
    Orderly (front ++ back) ending := by
  have undone : ∀ id ∈ back.filterMap dropped?, ∃ mail, (id, mail) ∈ front.filterMap queued? := by
    intro id hid
    obtain ⟨-, rfl⟩ | ⟨-, rfl⟩ := hback
    · exact nomatch hid
    · rw [(filterMap_undoing _).1] at hid
      obtain ⟨⟨_, mail⟩, hmem, rfl⟩ := List.mem_map.1 hid
      exact ⟨mail, hmem⟩
  refine ⟨?_, ?_, ?_⟩
  · intro before after hsplit id hid
    obtain ⟨more, rfl, rfl⟩ | ⟨more, rfl, rfl⟩ := List.append_eq_append_iff.1 hsplit
    · rw [List.filterMap_append, hfront, List.nil_append] at hid
      rw [List.filterMap_append] at undone
      obtain ⟨mail, hmail⟩ := undone id (List.mem_append_left _ hid)
      rw [List.filterMap_append]
      exact ⟨mail, List.mem_append_left _ hmail⟩
    · rw [List.filterMap_append, List.append_eq_nil_iff] at hfront
      rw [hfront.1] at hid
      exact nomatch hid
  · rintro rfl id mail hmail
    obtain ⟨hend, -⟩ | ⟨-, rfl⟩ := hback
    · exact nomatch hend
    · rw [List.filterMap_append, (filterMap_undoing _).2, List.append_nil] at hmail
      rw [List.filterMap_append, (filterMap_undoing _).1, hfront]
      exact List.mem_map_of_mem hmail
  · obtain ⟨rfl, rfl⟩ | ⟨rfl, -⟩ := hback
    · refine .inr ⟨rfl, ?_⟩
      rw [List.filterMap_append, hfront]
      rfl
    · exact .inl rfl

/-- With stores in memory a unit of work is in order, whatever others do in between. -/
theorem orderly_of_runs {job : MailJob} {said : List (Exchange Memory.Kinds)} {ending : Ending}
    (h : (job.run : Dialogue Memory.Kinds Ending).Runs said ending)
    (answered : ∀ x ∈ said, ∃ s s', Answers s x s') : Orderly said ending := by
  obtain ⟨_, u, rest, rfl, ⟨id, _, rfl, ⟨⟩, _, rfl, rfl, rfl⟩, hjob⟩ := runs_bind.1 h
  obtain ⟨queueing, back, rfl, hqueueing, hback⟩ :=
    said_of_runs_goOn hjob fun x hx => answered x (List.mem_append_right _ hx)
  -- Opening the unit of work neither queues a mail nor takes one out.
  have orderly : Orderly ((opening id ++ queueing) ++ back) ending := .of_parts hqueueing hback
  rw [List.append_assoc] at orderly
  exact orderly

end MailJob

/-! ## Many units of work -/

/-- A step of some units of work and what is around them: a request of one of them with its
answer, or the queue goes out of order or comes back. -/
inductive OutboxStep (n : Nat) where
  | said (i : Fin n) (x : Exchange Memory.Kinds)
  | outage (broken : Bool)

/-- A mail that was queued: by whom, and under which id. -/
structure Queuing (n : Nat) where
  unit : Fin n
  id : Uuid
  mail : Mail

/-- The mail as the outbox holds it. -/
def Queuing.stored {n : Nat} (q : Queuing n) : Mail := { q.mail with id := some q.id }

namespace OutboxStep

variable {n : Nat}

/-- The request of a unit of work, if the step is one. -/
def of? (i : Fin n) : OutboxStep n → Option (Exchange Memory.Kinds)
  | .said j x => if j = i then some x else none
  | .outage _ => none

/-- The mail that is queued in a step, if one is. -/
def queued? : OutboxStep n → Option (Queuing n)
  | .said i x => (Memory.queued? x).map fun q => { unit := i, id := q.1, mail := q.2 }
  | .outage _ => none

/-- The id of the mails that are taken out in a step, if some are. -/
def dropped? : OutboxStep n → Option Uuid
  | .said _ x => Memory.dropped? x
  | .outage _ => none

/-- What is said in a unit of work. -/
def part (i : Fin n) (steps : List (OutboxStep n)) : List (Exchange Memory.Kinds) :=
  steps.filterMap (of? i)

/-- What was queued in some steps, in order. -/
def queued (steps : List (OutboxStep n)) : List (Queuing n) := steps.filterMap queued?

/-- The ids of the mails that were taken out. -/
def dropped (steps : List (OutboxStep n)) : List Uuid := steps.filterMap dropped?

/-- Whether a mail was not taken out. -/
def spares (steps : List (OutboxStep n)) (m : Mail) : Bool :=
  decide (∀ id ∈ dropped steps, m.id ≠ some id)

variable {i : Fin n} {steps before after : List (OutboxStep n)}

theorem spares_iff {m : Mail} : spares steps m ↔ ∀ id ∈ dropped steps, m.id ≠ some id :=
  decide_eq_true_iff

theorem spares_stored {q : Queuing n} : spares steps q.stored ↔ q.id ∉ dropped steps := by
  rw [spares_iff]
  constructor
  · intro h hid
    exact h q.id hid rfl
  · rintro h id hid ⟨⟩
    exact h hid

theorem spares_nil (m : Mail) : spares ([] : List (OutboxStep n)) m = true := rfl

theorem part_append : part i (before ++ after) = part i before ++ part i after :=
  List.filterMap_append

theorem queued_append : queued (before ++ after) = queued before ++ queued after :=
  List.filterMap_append

theorem dropped_append : dropped (before ++ after) = dropped before ++ dropped after :=
  List.filterMap_append

theorem mem_part {x : Exchange Memory.Kinds} : x ∈ part i steps ↔ .said i x ∈ steps := by
  rw [part, List.mem_filterMap]
  constructor
  · rintro ⟨⟨j, y⟩ | _, hy, hsome⟩
    · rw [of?] at hsome
      split at hsome
      · rename_i same
        obtain rfl : j = i := same
        obtain rfl := Option.some.inj hsome
        exact hy
      · exact nomatch hsome
    · exact nomatch hsome
  · intro h
    exact ⟨_, h, if_pos rfl⟩

/-- What was queued was queued by one of the units of work. -/
theorem mem_queued {q : Queuing n} :
    q ∈ queued steps ↔ (q.id, q.mail) ∈ (part q.unit steps).filterMap Memory.queued? := by
  rw [queued, List.mem_filterMap, List.mem_filterMap]
  constructor
  · rintro ⟨⟨j, y⟩ | _, hy, hsome⟩
    · obtain ⟨⟨id, mail⟩, hqueued, rfl⟩ := Option.map_eq_some_iff.1 hsome
      exact ⟨y, mem_part.2 hy, hqueued⟩
    · exact nomatch hsome
  · rintro ⟨y, hy, hqueued⟩
    exact ⟨_, mem_part.1 hy, Option.map_eq_some_iff.2 ⟨_, hqueued, rfl⟩⟩

/-- What was taken out was taken out by one of the units of work. -/
theorem mem_dropped {id : Uuid} :
    id ∈ dropped steps ↔ ∃ i, id ∈ (part i steps).filterMap Memory.dropped? := by
  simp only [dropped, List.mem_filterMap]
  constructor
  · rintro ⟨⟨j, y⟩ | _, hy, hsome⟩
    · exact ⟨j, y, mem_part.2 hy, hsome⟩
    · exact nomatch hsome
  · rintro ⟨i, y, hy, hsome⟩
    exact ⟨_, mem_part.1 hy, hsome⟩

end OutboxStep

namespace Memory

variable {n : Nat}

/-- The stores with the queue in order or out of order. -/
def withQueue (s : Memory) (broken : Bool) : Memory :=
  { s with outages := { s.outages with mailQueue := broken } }

/-- Whether a step may take the stores to others. -/
def Takes (s : Memory) : OutboxStep n → Memory → Prop
  | .said _ x, s' => Answers s x s'
  | .outage broken, s' => s' = s.withQueue broken

/-- Whether some steps, one after another, may take the stores to others. -/
inductive Shares : Memory → List (OutboxStep n) → Memory → Prop
  | nil (s : Memory) : Shares s [] s
  | cons {s s₁ s₂ : Memory} {x : OutboxStep n} {rest : List (OutboxStep n)}
      (first : Takes s x s₁) (later : Shares s₁ rest s₂) : Shares s (x :: rest) s₂

theorem Shares.answered {s s' : Memory} {steps : List (OutboxStep n)} (h : s.Shares steps s')
    {i : Fin n} {x : Exchange Kinds} (hx : .said i x ∈ steps) : ∃ t t', Answers t x t' := by
  induction h with
  | nil s => exact nomatch hx
  | cons first later ih =>
    rcases List.mem_cons.1 hx with rfl | hx
    · exact ⟨_, _, first⟩
    · exact ih hx

/-- What an outbox holds after some steps: what it held at first and what was queued,
without what was taken out. -/
def held (first : List Mail) (steps : List (OutboxStep n)) : List Mail :=
  (first ++ (OutboxStep.queued steps).map Queuing.stored).filter (OutboxStep.spares steps)

/-- What an outbox holds is told by the steps so far, as long as no mail is queued under an
id that was taken out before. -/
theorem held_takes {first : List Mail} {before : List (OutboxStep n)} {x : OutboxStep n}
    {s s' : Memory} (h : s.Takes x s') (hs : s.mails = held first before)
    (early : ∀ q, x.queued? = some q → q.id ∉ OutboxStep.dropped before) :
    s'.mails = held first (before ++ [x]) := by
  -- A step that takes out nothing spares what was spared before.
  have same : x.dropped? = none →
      OutboxStep.spares (before ++ [x]) = OutboxStep.spares before := by
    intro hd
    have hdropped : OutboxStep.dropped [x] = [] := List.filterMap_cons_none hd
    funext m
    rw [OutboxStep.spares, OutboxStep.dropped_append, hdropped, List.append_nil, OutboxStep.spares]
  have fewer : x.queued? = none →
      OutboxStep.queued (before ++ [x]) = OutboxStep.queued before := by
    intro hq
    have hqueued : OutboxStep.queued [x] = [] := List.filterMap_cons_none hq
    rw [OutboxStep.queued_append, hqueued, List.append_nil]
  rw [held]
  cases x with
  | outage broken =>
    rw [fewer rfl, same rfl, h]
    exact hs
  | said i y =>
    obtain ⟨id, mail, hq, hd, hmails⟩ | ⟨id, hq, hd, hmails⟩ | ⟨hq, hd, hmails⟩ := h.mails
    · have hstep : (OutboxStep.said i y).queued? = some ⟨i, id, mail⟩ := by
        rw [OutboxStep.queued?, hq]
        rfl
      have hqueued : OutboxStep.queued [.said i y] = [⟨i, id, mail⟩] :=
        List.filterMap_cons_some hstep
      have hspared : OutboxStep.spares before (Queuing.stored ⟨i, id, mail⟩) = true := by
        rw [OutboxStep.spares_iff]
        rintro id' hid' ⟨⟩
        exact early _ hstep hid'
      rw [OutboxStep.queued_append, hqueued, same hd, List.map_append, ← List.append_assoc,
        List.filter_append, hmails, hs, held, List.map_singleton,
        List.filter_cons_of_pos hspared]
      rfl
    · have hdropped : OutboxStep.dropped [.said i y] = [id] := List.filterMap_cons_some hd
      have hnone : (OutboxStep.said i y).queued? = none := by
        rw [OutboxStep.queued?, hq]
        rfl
      rw [fewer hnone, hmails, hs, held, List.filter_filter]
      refine List.filter_congr fun m _ => ?_
      rw [OutboxStep.spares, OutboxStep.spares, OutboxStep.dropped_append, hdropped,
        ← Bool.decide_and, decide_eq_decide]
      simp only [List.mem_append, List.mem_singleton, or_imp, forall_and, forall_eq]
      exact and_comm
    · have hnone : (OutboxStep.said i y).queued? = none := by
        rw [OutboxStep.queued?, hq]
        rfl
      rw [fewer hnone, same hd, hmails]
      exact hs

/-- What holds for a step holds for many. -/
theorem held_shares {first : List Mail} {before steps : List (OutboxStep n)} {s s' : Memory}
    (h : s.Shares steps s') (hs : s.mails = held first before)
    (early : ∀ front x back, steps = front ++ x :: back → ∀ q, x.queued? = some q →
      q.id ∉ OutboxStep.dropped (before ++ front)) :
    s'.mails = held first (before ++ steps) := by
  induction h generalizing before with
  | nil s =>
    rw [List.append_nil]
    exact hs
  | @cons s s₁ s₂ x rest hfirst later ih =>
    have hearly := early [] x rest rfl
    rw [List.append_nil] at hearly
    have hrest := ih (held_takes hfirst hs hearly)
    rw [List.append_assoc, List.singleton_append] at hrest
    refine hrest ?_
    rintro front y back rfl q hq
    have hlater := early (x :: front) y back rfl q hq
    rw [List.append_assoc, List.singleton_append]
    exact hlater

end Memory

/-! ## What the outbox holds in the end -/

section

variable {n : Nat}

/-- Whether some steps are those of some units of work, each done to its end, on the stores
that they share. -/
structure Interleaved (jobs : Fin n → MailJob) (s : Memory) (steps : List (OutboxStep n))
    (ending : Fin n → MailJob.Ending) (s' : Memory) : Prop where
  runs : ∀ i, ((jobs i).run : Dialogue Memory.Kinds MailJob.Ending).Runs
    (OutboxStep.part i steps) (ending i)
  shares : s.Shares steps s'

namespace Interleaved

open OutboxStep (part queued dropped)

/-- Whether every mail is queued under an id that is new to the outbox. -/
structure Fresh (s : Memory) (steps : List (OutboxStep n)) : Prop where
  distinct : ((queued steps).map Queuing.id).Nodup
  unused : ∀ q ∈ queued steps, ∀ m ∈ s.mails, m.id ≠ some q.id

variable {jobs : Fin n → MailJob} {s s' : Memory} {steps : List (OutboxStep n)}
  {ending : Fin n → MailJob.Ending}

theorem orderly (h : Interleaved jobs s steps ending s') (i : Fin n) :
    MailJob.Orderly (part i steps) (ending i) :=
  MailJob.orderly_of_runs (h.runs i) fun _ hx => h.shares.answered (OutboxStep.mem_part.1 hx)

/-- What was taken out by some point was queued by then, in the same unit of work. -/
theorem queued_of_dropped (h : Interleaved jobs s steps ending s')
    {before after : List (OutboxStep n)} (hsplit : steps = before ++ after) {id : Uuid}
    (hid : id ∈ dropped before) :
    ∃ q ∈ queued before, q.id = id ∧ ending q.unit = .rolledBack := by
  obtain ⟨i, hi⟩ := OutboxStep.mem_dropped.1 hid
  have hpart : part i steps = part i before ++ part i after := by
    rw [hsplit, OutboxStep.part_append]
  obtain ⟨mail, hmail⟩ := (h.orderly i).earlier _ _ hpart id hi
  refine ⟨⟨i, id, mail⟩, OutboxStep.mem_queued.2 hmail, rfl, ?_⟩
  refine (h.orderly i).kept.resolve_right ?_
  rintro ⟨-, hnone⟩
  rw [hpart, List.filterMap_append, List.append_eq_nil_iff] at hnone
  rw [hnone.1] at hi
  exact nomatch hi

/-- Nothing is queued under an id that was taken out before. -/
theorem early (h : Interleaved jobs s steps ending s') (fresh : Fresh s steps)
    {before after : List (OutboxStep n)} {x : OutboxStep n} (hsplit : steps = before ++ x :: after)
    {q : Queuing n} (hq : x.queued? = some q) : q.id ∉ dropped before := by
  intro hid
  obtain ⟨q', hq', hsame, -⟩ := h.queued_of_dropped hsplit hid
  have hqueued : queued (x :: after) = q :: queued after := List.filterMap_cons_some hq
  have hdistinct := fresh.distinct
  rw [hsplit, OutboxStep.queued_append, hqueued, List.map_append, List.map_cons] at hdistinct
  refine (List.nodup_append.1 hdistinct).2.2 q'.id (List.mem_map_of_mem hq') q.id
    List.mem_cons_self hsame

/-- A queued mail is taken out exactly when its unit of work is rolled back. -/
theorem mem_dropped_iff (h : Interleaved jobs s steps ending s') (fresh : Fresh s steps)
    {q : Queuing n} (hq : q ∈ queued steps) :
    q.id ∈ dropped steps ↔ ending q.unit = .rolledBack := by
  constructor
  · intro hid
    obtain ⟨q', hq', hsame, hback⟩ := h.queued_of_dropped (List.append_nil _).symm hid
    rwa [← List.inj_on_of_nodup_map fresh.distinct hq' hq hsame]
  · intro hback
    have hmail := OutboxStep.mem_queued.1 hq
    exact OutboxStep.mem_dropped.2 ⟨q.unit, (h.orderly q.unit).undone hback _ _ hmail⟩

/-- However the requests of some units of work are mixed, and whichever of them fail: once
all of them are done, every commit has succeeded, and the outbox holds its first mails and
then the mails that were queued in the committed units of work, in the order in which they
were queued, each as it was queued but for an id of its own. -/
theorem keeps_committed (h : Interleaved jobs s steps ending s') (fresh : Fresh s steps) :
    (∀ i, ending i = .rolledBack ∨ ending i = .committed (.ok ()))
      ∧ s'.mails = s.mails
        ++ ((queued steps).filter fun q => (ending q.unit).isCommitted).map Queuing.stored := by
  refine ⟨fun i => (h.orderly i).kept.imp_right And.left, ?_⟩
  have hstart : s.mails = Memory.held (n := n) s.mails [] := by
    rw [Memory.held]
    exact ((List.filter_eq_self.2 fun m _ => OutboxStep.spares_nil m).trans
      (List.append_nil _)).symm
  have hheld := Memory.held_shares h.shares hstart
    (fun front x back hsplit q hq => h.early fresh hsplit hq)
  rw [List.nil_append] at hheld
  have hfirst : ∀ m ∈ s.mails, OutboxStep.spares steps m = true := by
    intro m hm
    rw [OutboxStep.spares_iff]
    intro id hid
    obtain ⟨q, hq, rfl, -⟩ := h.queued_of_dropped (List.append_nil _).symm hid
    exact fresh.unused q hq m hm
  have hlater : ∀ q ∈ queued steps,
      OutboxStep.spares steps q.stored = (ending q.unit).isCommitted := by
    intro q hq
    rw [Bool.eq_iff_iff, OutboxStep.spares_stored, MailJob.Ending.isCommitted_iff,
      h.mem_dropped_iff fresh hq]
  rw [hheld, Memory.held, List.filter_append, List.filter_eq_self.2 hfirst, List.filter_map]
  exact congrArg _ (congrArg _ (List.filter_congr hlater))

/-! ## Two units of work at once -/

/-- A mail to an address. -/
def mailTo (address : String) : Mail := .new address "Welcome" "Hi"

/-- An outbox with one mail. -/
def stocked : Memory :=
  { Memory.empty with mails := [{ mailTo "zoe@yas.org" with id := some ⟨9#128⟩ }] }

/-- The first one queues two mails and is committed, the second one queues two mails and is
rolled back; neither minds a failure. -/
def greetings : Fin 2 → MailJob
  | 0 => .queue (mailTo "ann@yas.org") fun _ => .queue (mailTo "bob@yas.org") fun _ => .commit
  | 1 => .queue (mailTo "eve@yas.org") fun _ => .queue (mailTo "joe@yas.org") fun _ => .rollback

/-- A unit of work that has queued mails under some ids. -/
def workWith (ids : List Nat) : UnitOfWork Memory.Kinds :=
  { empty Memory.Kinds ⟨0#128⟩ with undos := ids.map fun id => .queued ⟨BitVec.ofNat 128 id⟩ }

/-- A unit of work is opened. -/
def openingSteps (i : Fin 2) : List (OutboxStep 2) :=
  [.said i ⟨.freshId, ⟨0#128⟩⟩, .said i ⟨.log openedNote, ()⟩]

/-- A mail is queued under an id after others. -/
def queueSteps (i : Fin 2) (address : String) (ids : List Nat) (id : Nat) : List (OutboxStep 2) :=
  [.said i ⟨.write (.enqueue (mailTo address)) (workWith ids),
      (.ok (), (workWith ids).addUndo (.queued ⟨BitVec.ofNat 128 id⟩))⟩,
    .said i ⟨.log (queuedEvent (mailTo address)), ()⟩]

/-- The steps of both, mixed; the second mail of the first one cannot be queued, and the
rollback of the second one is under way when the first one is committed. -/
def greetingSteps : List (OutboxStep 2) :=
  openingSteps 0 ++ openingSteps 1 ++ queueSteps 1 "eve@yas.org" [] 1
    ++ queueSteps 0 "ann@yas.org" [] 2
    ++ [.outage true,
      .said 0 ⟨.write (.enqueue (mailTo "bob@yas.org")) (workWith [2]),
        (.error Memory.queueFailure, workWith [2])⟩,
      .outage false]
    ++ queueSteps 1 "joe@yas.org" [1] 3
    ++ [.said 1 ⟨.runUndo (.queued ⟨1#128⟩), ()⟩, .said 0 ⟨.log committedNote, ()⟩,
      .said 1 ⟨.runUndo (.queued ⟨3#128⟩), ()⟩, .said 1 ⟨.log rolledBackNote, ()⟩]

/-- A request is made with a source of ids that has been drawn from so many times. -/
theorem shares_next {s : Memory} {i : Fin 2} {x : Exchange Memory.Kinds}
    {rest : List (OutboxStep 2)} {rt : Runtime Premises} (drawn : Nat)
    (h : x.1.make.runOn (.new { Entropy.counting with drawn }
      { Premises.plain .none with memory := s }) = (.ok x.2, rt))
    (later : ∃ s', rt.world.memory.Shares rest s') : ∃ s', s.Shares (.said i x :: rest) s' := by
  obtain ⟨s', later⟩ := later
  exact ⟨s', .cons ⟨_, rt, rfl, rfl, h⟩ later⟩

theorem shares_outage {s : Memory} {broken : Bool} {rest : List (OutboxStep 2)}
    (later : ∃ s', (s.withQueue broken).Shares rest s') :
    ∃ s', s.Shares (.outage broken :: rest) s' := by
  obtain ⟨s', later⟩ := later
  exact ⟨s', .cons rfl later⟩

/-- How the units of work are ended. -/
def greetingEnding : Fin 2 → MailJob.Ending
  | 0 => .committed (.ok ())
  | 1 => .rolledBack

theorem greetings_mixed : ∃ s', Interleaved greetings stocked greetingSteps greetingEnding s' := by
  have hshares : ∃ s', stocked.Shares greetingSteps s' := by
    refine shares_next 0 rfl (shares_next 0 rfl (shares_next 0 rfl (shares_next 0 rfl ?_)))
    refine shares_next 1 rfl (shares_next 0 rfl (shares_next 2 rfl (shares_next 0 rfl ?_)))
    refine shares_outage (shares_next 0 rfl (shares_outage ?_))
    refine shares_next 3 rfl (shares_next 0 rfl ?_)
    refine shares_next 0 rfl (shares_next 0 rfl (shares_next 0 rfl (shares_next 0 rfl ?_)))
    exact ⟨_, .nil _⟩
  obtain ⟨s', shares⟩ := hshares
  refine ⟨s', ?_, shares⟩
  intro i
  match i with
  | 0 =>
    repeat refine ⟨_, _, rfl, ?_⟩
    exact ⟨rfl, rfl⟩
  | 1 =>
    repeat refine ⟨_, _, rfl, ?_⟩
    exact ⟨rfl, rfl⟩

/-- Of two units of work that queue mails at the same time, the committed one keeps what it
could queue, and nothing is left of the other one. -/
theorem keeps_committed_greetings :
    ∃ s', Interleaved greetings stocked greetingSteps greetingEnding s'
      ∧ Fresh stocked greetingSteps
      ∧ s'.mails = stocked.mails ++ [{ mailTo "ann@yas.org" with id := some ⟨2#128⟩ }] := by
  obtain ⟨s', mixed⟩ := greetings_mixed
  have fresh : Fresh stocked greetingSteps := ⟨by decide, by decide⟩
  exact ⟨s', mixed, fresh, (keeps_committed mixed fresh).2⟩

end Interleaved

end

end Gatehouse
