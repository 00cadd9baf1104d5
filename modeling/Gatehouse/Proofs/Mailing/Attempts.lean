/-
  Gatehouse/Proofs/Mailing/Attempts.lean --- what one attempt at a cycle may do.

  An attempt fetches the first pending mails, hands each of them over once and in order,
  and saves the batch until a save takes effect or too many have failed.  It may be given
  up anywhere in between.  All that it can do is said once here; what a run does follows
  from it.

  Main definitions: `Attempt.Ended`, `Dispatcher.Attempted`.
  Main statement: `Dispatcher.ends_process`.
-/
import Gatehouse.Proofs.Mailing.Room
import Mathlib.Data.Bool.Count

set_option autoImplicit false

namespace Gatehouse

/-! ## Handing a batch over -/

namespace Dispatcher

variable {S : Surroundings} {w₀ w : MailRoom S} {a : Attempt}

/-- Every mail is handed over in its turn, whatever became of the ones before it. -/
theorem ends_deliver (mails : List Mail) (under : w₀.UnderWay a w) (unsaved : a.isSaved = false) :
    Virtual.Ends (deliver mails : MailRoom.Run S (List Mail × Nat)) w
      (fun result w' => ∃ verdicts, verdicts.length = mails.length
        ∧ result = (List.zipWith Mail.given mails verdicts, verdicts.count true)
        ∧ w₀.UnderWay (a.hand (List.zipWith Mail.handing mails verdicts)) w')
      (fun _ w' => ∃ verdicts : List Bool, verdicts.length ≤ mails.length
        ∧ w₀.UnderWay (a.hand (List.zipWith Mail.handing mails verdicts)) w') := by
  induction mails generalizing a w with
  | nil =>
    refine .pure ⟨[], rfl, rfl, ?_⟩
    rwa [List.zipWith_nil_left, Attempt.hand_nil]
  | cons m mails ih =>
    -- The verdict on the first mail goes before those that the others have had by the cut.
    have hcut : ∀ v w', (∃ verdicts : List Bool, verdicts.length ≤ mails.length
          ∧ w₀.UnderWay ((a.hand [m.handing v]).hand
            (List.zipWith Mail.handing mails verdicts)) w') →
        ∃ verdicts : List Bool, verdicts.length ≤ (m :: mails).length
          ∧ w₀.UnderWay (a.hand (List.zipWith Mail.handing (m :: mails) verdicts)) w' := by
      rintro v w' ⟨verdicts, hlen, hunder⟩
      rw [Attempt.hand_cons] at hunder
      exact ⟨v :: verdicts, Nat.succ_le_succ hlen, hunder⟩
    refine .bind ((MailRoom.ends_send under unsaved m).mono ?_ ?_)
    · intro result w₁ hunder
      have hrest := ih hunder unsaved
      cases result with
      | ok _ =>
        refine .bind (hrest.mono ?_ fun _ w' => hcut true w')
        rintro _ w' ⟨verdicts, hlen, rfl, hunder'⟩
        rw [Attempt.hand_cons] at hunder'
        refine .pure ⟨true :: verdicts, congrArg Nat.succ hlen, ?_, hunder'⟩
        rw [List.zipWith_cons_cons, List.count_cons_self]
        rfl
      | error e =>
        refine .bind (.observe (.bind (hrest.mono ?_ fun _ w' => hcut false w')))
        rintro _ w' ⟨verdicts, hlen, rfl, hunder'⟩
        rw [Attempt.hand_cons] at hunder'
        refine .pure ⟨false :: verdicts, congrArg Nat.succ hlen, ?_, hunder'⟩
        rw [List.zipWith_cons_cons, List.count_cons_of_ne Bool.false_ne_true]
        rfl
    · rintro _ w' (hunder | ⟨v, hunder⟩)
      · refine ⟨[], Nat.zero_le _, ?_⟩
        rwa [List.zipWith_nil_right, Attempt.hand_nil]
      · refine hcut v w' ⟨[], Nat.zero_le _, ?_⟩
        rwa [List.zipWith_nil_right, Attempt.hand_nil]

end Dispatcher

/-! ## Attempts -/

namespace Attempt

/-- An attempt whose whole batch was handed over. -/
def whole (batch : List Mail) (verdicts saves : List Bool) : Attempt :=
  { batch, handings := List.zipWith Mail.handing batch verdicts, saves }

theorem gave_whole {batch : List Mail} {verdicts : List Bool}
    (h : verdicts.length ≤ batch.length) (saves : List Bool) :
    (whole batch verdicts saves).Gave verdicts := ⟨h, rfl⟩

theorem gave_opening (batch : List Mail) : (opening batch).Gave [] :=
  ⟨Nat.zero_le _, List.zipWith_nil_right.symm⟩

theorem save_whole (batch : List Mail) (verdicts saves : List Bool) (done : Bool) :
    (whole batch verdicts saves).save done = whole batch verdicts (saves ++ [done]) := rfl

theorem isSaved_failed (batch : List Mail) (verdicts : List Bool) (k : Nat) :
    (whole batch verdicts (List.replicate k false)).isSaved = false := by
  rw [isSaved, whole, List.contains_eq_mem, decide_eq_false_iff_not]
  intro h
  exact Bool.false_ne_true (List.eq_of_mem_replicate h).symm

/-- Whether an attempt completes its cycle: nothing was pending, or the batch was saved. -/
def isCompleted (a : Attempt) : Bool := a.batch.isEmpty || a.isSaved

theorem isCompleted_of_isSaved {a : Attempt} (h : a.isSaved = true) : a.isCompleted = true := by
  rw [isCompleted, h, Bool.or_true]

theorem isCompleted_of_empty {a : Attempt} (h : a.batch = []) : a.isCompleted = true := by
  rw [isCompleted, h, List.isEmpty_nil, Bool.true_or]

/-- Whether a result of a cycle is the one of the attempt. -/
def Ended (a : Attempt) : Except Failure CycleOutcome → Prop
  | .ok .drained => a.batch = []
  | .ok (.delivered delivered failed) =>
      a.isSaved = true ∧ delivered = a.accepted.length ∧ failed = a.refused.length
  | .error _ => a.isCompleted = false

/-- A saved attempt tells what was accepted of its batch and what was not. -/
theorem Ended.delivered {batch : List Mail} {verdicts saves : List Bool}
    (saved : (whole batch verdicts saves).isSaved = true)
    (enough : verdicts.length = batch.length) :
    (whole batch verdicts saves).Ended
      (.ok (.delivered (verdicts.count true) (batch.length - verdicts.count true))) := by
  have hgave := gave_whole (Nat.le_of_eq enough) saves
  have hcount := List.count_true_add_count_false verdicts
  refine ⟨saved, ?_, ?_⟩
  · rw [accepted, length_judged hgave]
  · rw [refused, length_judged hgave]
    omega

end Attempt

namespace Dispatcher

variable {S : Surroundings} {w₀ w : MailRoom S} {a : Attempt} (d : Dispatcher)

/-- Whether an attempt at a cycle was all that happened: it fetched the first pending
mails, handed over some or all of them, and saved the batch only after all of them were
handed over and some of them accepted. -/
structure Attempted (w₀ : MailRoom S) (a : Attempt) (w : MailRoom S) : Prop where
  under : w₀.UnderWay a w
  batch : a.batch = (Mail.pending w₀.memory.mails).take d.batchSize
  gave : ∃ verdicts, a.Gave verdicts
  saves : a.saves.length ≤ d.saveRetrier.maxRetries + 1
  saved : a.isSaved = true → a.handings.length = a.batch.length ∧ a.accepted ≠ []

/-- An attempt that is not saved says nothing about what was accepted. -/
theorem attempted_of_unsaved {verdicts : List Bool} (under : w₀.UnderWay a w)
    (batch : a.batch = (Mail.pending w₀.memory.mails).take d.batchSize) (gave : a.Gave verdicts)
    (unsaved : a.saves = []) : d.Attempted w₀ a w where
  under := under
  batch := batch
  gave := ⟨verdicts, gave⟩
  saves := by
    rw [unsaved]
    exact Nat.zero_le _
  saved h := by
    rw [Attempt.isSaved, unsaved] at h
    cases h

/-- Saves may follow once the whole batch was handed over and some of it accepted. -/
theorem attempted_whole {batch : List Mail} {verdicts saves : List Bool}
    (under : w₀.UnderWay (.whole batch verdicts saves) w)
    (fetched : batch = (Mail.pending w₀.memory.mails).take d.batchSize)
    (enough : verdicts.length = batch.length) (success : verdicts.count true ≠ 0)
    (few : saves.length ≤ d.saveRetrier.maxRetries + 1) :
    d.Attempted w₀ (.whole batch verdicts saves) w := by
  have hgave := Attempt.gave_whole (Nat.le_of_eq enough) saves
  refine ⟨under, fetched, ⟨verdicts, hgave⟩, few, fun _ => ⟨?_, ?_⟩⟩
  · rw [Attempt.whole, List.length_zipWith, enough, Nat.min_self]
  · rw [← List.length_pos_iff_ne_nil, Attempt.accepted, Attempt.length_judged hgave]
    exact Nat.pos_of_ne_zero success

/-- The batch is saved until a save takes effect or all of them have failed. -/
theorem ends_save {batch : List Mail} {verdicts : List Bool} (ready : w₀.Ready)
    (fetched : batch = (Mail.pending w₀.memory.mails).take d.batchSize)
    (enough : verdicts.length = batch.length) (success : verdicts.count true ≠ 0)
    (under : w₀.UnderWay (.whole batch verdicts []) w) :
    Virtual.Ends (d.saveRetrier.process
        (Outbox.saveBatch (List.zipWith Mail.given batch verdicts) :
          MailRoom.Run S (Except Failure Unit))) w
      (fun result w' => ∃ saves, d.Attempted w₀ (.whole batch verdicts saves) w'
        ∧ (Attempt.whole batch verdicts saves).isSaved = result.isOk)
      (fun _ w' => ∃ saves, d.Attempted w₀ (.whole batch verdicts saves) w') := by
  have hsublist : batch.Sublist (Mail.pending w₀.memory.mails) := by
    rw [fetched]
    exact List.take_sublist _ _
  -- After `k` failures the attempt differs from the one before them by `k` failed saves.
  refine (Retrier.ends_process d.saveRetrier
    (fun k w' => k ≤ d.saveRetrier.maxRetries + 1
      ∧ w₀.UnderWay (.whole batch verdicts (List.replicate k false)) w')
    (fun _ w' => ∃ saves, d.Attempted w₀ (.whole batch verdicts saves) w'
      ∧ (Attempt.whole batch verdicts saves).isSaved = true)
    ?_ ?_ ⟨Nat.zero_le _, under⟩).mono ?_ fun _ _ h => h
  · rintro k w' hk ⟨hle, hunder⟩
    have hmore : ∀ {done w₁},
        w₀.UnderWay (.whole batch verdicts (List.replicate k false ++ [done])) w₁ →
        d.Attempted w₀ (.whole batch verdicts (List.replicate k false ++ [done])) w₁ := by
      intro done w₁ hsaved
      refine d.attempted_whole hsaved fetched enough success ?_
      rw [List.length_append, List.length_replicate, List.length_singleton]
      exact Nat.succ_le_succ hk
    refine (MailRoom.ends_saveBatch hunder ready (Attempt.isSaved_failed _ _ k)
      (Attempt.gave_whole (Nat.le_of_eq enough) _) hsublist).mono ?_ ?_
    · intro result w₁ hsaved
      cases result with
      | ok _ =>
        refine ⟨_, hmore hsaved, ?_⟩
        rw [← Attempt.save_whole, Attempt.isSaved_save]
        exact Bool.or_true _
      | error e =>
        refine ⟨Nat.succ_le_succ hk, ?_⟩
        rw [List.replicate_succ', ← Attempt.save_whole]
        exact hsaved
    · rintro _ w₁ (hstill | ⟨done, hsaved⟩)
      · refine ⟨_, d.attempted_whole hstill fetched enough success ?_⟩
        rwa [List.length_replicate]
      · exact ⟨_, hmore hsaved⟩
  · rintro k w' c ⟨hle, hunder⟩
    refine ⟨_, d.attempted_whole hunder fetched enough success ?_⟩
    rwa [List.length_replicate]
  · intro result w' h
    cases result with
    | ok _ => exact h
    | error e =>
      obtain ⟨-, hunder⟩ := h
      refine ⟨_, d.attempted_whole hunder fetched enough success ?_, Attempt.isSaved_failed _ _ _⟩
      rw [List.length_replicate]

/-- One attempt at a cycle, to its end or to where it is given up. -/
theorem ends_process (ready : w₀.Ready) :
    Virtual.Ends (d.process : MailRoom.Run S (Except Failure CycleOutcome)) w₀
      (fun result w => ∃ a, d.Attempted w₀ a w ∧ a.Ended result)
      (fun _ w => w₀.Still w ∨ ∃ a, d.Attempted w₀ a w) := by
  unfold process
  refine .bind ((MailRoom.ends_findPending ready d.batchSize).mono ?_ ?_)
  · rintro _ w₁ ⟨rfl, hunder⟩
    rcases hbatch : (Mail.pending w₀.memory.mails).take d.batchSize with _ | ⟨m, mails⟩
    · rw [hbatch] at hunder
      exact .pure ⟨_, d.attempted_of_unsaved hunder hbatch.symm (Attempt.gave_opening _) rfl, rfl⟩
    · rw [hbatch] at hunder
      refine .bind ((ends_deliver (m :: mails) hunder rfl).mono ?_ ?_)
      · rintro _ w₂ ⟨verdicts, enough, rfl, hunder'⟩
        have hgave := Attempt.gave_whole (Nat.le_of_eq enough)
        by_cases hcount : verdicts.count true = 0
        · dsimp only
          rw [if_pos hcount]
          exact .pure ⟨_, d.attempted_of_unsaved hunder' hbatch.symm (hgave []) rfl, rfl⟩
        · dsimp only
          rw [if_neg hcount]
          refine .bind ((d.ends_save ready hbatch.symm enough hcount hunder').mono ?_ ?_)
          · rintro result w₃ ⟨saves, hattempted, hsaved⟩
            cases result with
            | error e => exact .pure ⟨_, hattempted, hsaved⟩
            | ok _ => exact .bind (.log (.pure ⟨_, hattempted, .delivered hsaved enough⟩))
          · rintro _ w₃ ⟨saves, hattempted⟩
            exact .inr ⟨_, hattempted⟩
      · rintro _ w₂ ⟨verdicts, hlen, hunder'⟩
        exact .inr ⟨_, d.attempted_of_unsaved hunder' hbatch.symm ⟨hlen, rfl⟩ rfl⟩
  · rintro _ w₁ (hstill | hunder)
    · exact .inl hstill
    · exact .inr ⟨_, d.attempted_of_unsaved hunder rfl (Attempt.gave_opening _) rfl⟩

end Dispatcher

end Gatehouse
