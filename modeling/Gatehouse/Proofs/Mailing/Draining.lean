/-
  Gatehouse/Proofs/Mailing/Draining.lean --- a run drains the outbox.

  What is left to do is the number of pending mails.  An attempt that completes its cycle
  lowers it by what the relay accepted, and every other attempt leaves it as it is, so a
  run has no more cycles with a saved batch than there were pending mails, and a report
  has counted each of them once.

  Main statement: `Dispatcher.run_drains`.
-/
import Gatehouse.Proofs.Mailing.Delivery

set_option autoImplicit false

namespace Gatehouse

namespace Dispatcher

/-! ## More cycles than needed -/

section

variable {σ : Type} [Outbox (Virtual σ)] [MailTransport (Virtual σ)] (d : Dispatcher)

/-- A run that has an answer has the same one with more cycles to spend. -/
theorem runOn_runFrom_succ {fuel : Nat} {r : DispatchReport} {rt rt' : Runtime σ}
    {answer : Except Failure DispatchReport}
    (h : Virtual.runOn (d.runFrom fuel r) rt = (.ok (some answer), rt')) :
    Virtual.runOn (d.runFrom (fuel + 1) r) rt = (.ok (some answer), rt') := by
  induction fuel generalizing r rt with
  | zero => cases h
  | succ fuel ih =>
    rw [runFrom, Virtual.runOn_bind] at h ⊢
    rcases hcycle : Virtual.runOn (unlessStopped d.cycle : Virtual σ _) rt
      with ⟨c | _ | e | _ | ⟨delivered, failed⟩, rt₁⟩
    · rw [hcycle] at h
      cases h
    · rw [hcycle] at h
      exact h
    · rw [hcycle] at h
      exact h
    · rw [hcycle] at h
      exact h
    · rw [hcycle] at h
      dsimp only at h ⊢
      rw [Virtual.runOn_bind] at h ⊢
      rcases hpause : Virtual.runOn (unlessStopped (pause d.delay) : Virtual σ _) rt₁
        with ⟨c | _ | _, rt₂⟩
      · rw [hpause] at h
        cases h
      · rw [hpause] at h
        exact h
      · rw [hpause] at h
        exact ih h

theorem runOn_runFrom_of_le {fuel more : Nat} (enough : fuel ≤ more) {r : DispatchReport}
    {rt rt' : Runtime σ} {answer : Except Failure DispatchReport}
    (h : Virtual.runOn (d.runFrom fuel r) rt = (.ok (some answer), rt')) :
    Virtual.runOn (d.runFrom more r) rt = (.ok (some answer), rt') := by
  induction enough with
  | refl => exact h
  | step _ ih => exact d.runOn_runFrom_succ ih

end

/-! ## What is left to do -/

variable {S : Surroundings} {d : Dispatcher} {w w₁ : MailRoom S} {a : Attempt}
  {as : List Attempt}

/-- An attempt that completes its cycle leaves what the relay did not accept, and any
other attempt leaves everything. -/
theorem Attempted.pending (attempted : d.Attempted w a w₁) (ready : w.Ready) :
    (Mail.pending w₁.memory.mails).length + (if a.isCompleted then a.accepted.length else 0)
      = (Mail.pending w.memory.mails).length := by
  rw [attempted.under.mails, Mail.pending_map_markedIn]
  cases hsaved : a.isSaved with
  | true =>
    rw [Attempt.confirmed_of_saved hsaved, if_pos (Attempt.isCompleted_of_isSaved hsaved)]
    exact Mail.length_filter_notMem attempted.accepted_sublist (Mail.nodup_pending ready.distinct)
  | false =>
    have hcount : (if a.isCompleted then a.accepted.length else 0) = 0 := by
      split
      · rename_i hcompleted
        rw [Attempt.isCompleted, hsaved, Bool.or_false, List.isEmpty_iff] at hcompleted
        rw [Attempt.accepted, Attempt.judged_of_empty hcompleted, List.length_nil]
      · rfl
    have hall : ∀ m ∈ Mail.pending w.memory.mails, decide (m ∉ ([] : List Mail)) = true :=
      fun m _ => decide_eq_true List.not_mem_nil
    rw [Attempt.confirmed_of_unsaved hsaved, hcount, List.filter_eq_self.2 hall, Nat.add_zero]

/-- What is left after some attempts, and what was accepted in the completed ones. -/
theorem Course.pending (course : d.Course w as w₁) (ready : w.Ready) :
    (Mail.pending w₁.memory.mails).length
        + ((as.filter Attempt.isCompleted).map fun a => a.accepted.length).sum
      = (Mail.pending w.memory.mails).length := by
  induction course with
  | start still =>
    rw [still.memory]
    rfl
  | @attempt as a _ _ course attempted ih =>
    have hattempt := attempted.pending (course.ready ready)
    rw [List.filter_cons]
    split
    · rename_i hcompleted
      rw [if_pos hcompleted] at hattempt
      rw [List.map_cons, List.sum_cons]
      omega
    · rename_i huncompleted
      rw [if_neg huncompleted] at hattempt
      omega

/-- There are no more saved attempts than mails accepted in the completed ones, when each
of the saved attempts has accepted some. -/
theorem countP_isSaved_le (giving : ∀ a ∈ as, a.isSaved = true → 0 < a.accepted.length) :
    as.countP Attempt.isSaved
      ≤ ((as.filter Attempt.isCompleted).map fun a => a.accepted.length).sum := by
  induction as with
  | nil => exact Nat.zero_le _
  | cons a as ih =>
    have hrest := ih fun b hb => giving b (List.mem_cons_of_mem _ hb)
    rw [List.countP_cons]
    split
    · rename_i hsaved
      have hpositive := giving a List.mem_cons_self hsaved
      rw [List.filter_cons_of_pos (Attempt.isCompleted_of_isSaved hsaved), List.map_cons,
        List.sum_cons]
      omega
    · rw [List.filter_cons]
      split
      · rw [List.map_cons, List.sum_cons]
        omega
      · exact hrest

/-- No more attempts are saved than mails were pending, as each has accepted one. -/
theorem Course.saved_le (course : d.Course w as w₁) (ready : w.Ready) :
    as.countP Attempt.isSaved ≤ (Mail.pending w.memory.mails).length := by
  have hgiving : ∀ a ∈ as, a.isSaved = true → 0 < a.accepted.length :=
    course.forall_attempts fun _ attempted hsaved =>
      List.length_pos_iff_ne_nil.2 (attempted.saved hsaved).2
  have htotal := course.pending ready
  exact Nat.le_trans (countP_isSaved_le hgiving) (by omega)

/-- Nothing is pending any more once there was nothing to fetch. -/
theorem Course.drained (positive : 1 ≤ d.batchSize) (course : d.Course w (a :: as) w₁)
    (empty : a.batch = []) : Mail.pending w₁.memory.mails = [] := by
  cases course with
  | @attempt _ _ w₂ _ course attempted =>
    have htake := attempted.batch
    rw [empty, eq_comm, List.take_eq_nil_iff] at htake
    have hnone : Mail.pending w₂.memory.mails = [] := htake.resolve_left (by omega)
    rw [attempted.under.mails, Mail.pending_map_markedIn, hnone, List.filter_nil]

/-! ## Draining -/

/-- What a run spends at most, for a number of mails that were pending. -/
structure Sparing (d : Dispatcher) (pending : Nat) (attempts : List Attempt) : Prop where
  cycles : attempts.countP Attempt.isCompleted ≤ pending + 1
  fetches : attempts.length ≤ (d.processRetrier.maxRetries + 1) * (pending + 1)
  sends : ∀ a ∈ attempts, a.handings.length ≤ a.batch.length ∧ a.batch.length ≤ d.batchSize
  saves : ∀ a ∈ attempts, a.saves.length ≤ d.saveRetrier.maxRetries + 1

/-- Whether a report is the one of a drained outbox: it counts every mail that was pending
as delivered, every refusal in a completed cycle, and every completed cycle, the last of
which had nothing to fetch. -/
structure Accounts (before after : List Mail) (attempts : List Attempt)
    (report : DispatchReport) : Prop where
  drained : Mail.pending after = []
  delivered : report.delivered = (Mail.pending before).length
  failed : report.failed
    = ((attempts.filter Attempt.isCompleted).map fun a => a.refused.length).sum
  cycles : report.cycles = attempts.countP Attempt.isCompleted
  last : ∃ a earlier, attempts = a :: earlier ∧ a.batch = []

theorem Course.sparing (course : d.Course w as w₁) (ready : w.Ready) (bounded : d.Bounded as) :
    d.Sparing (Mail.pending w.memory.mails).length as where
  cycles := Nat.le_trans bounded.completed (Nat.succ_le_succ (course.saved_le ready))
  fetches := Nat.le_trans bounded.attempts
    (Nat.mul_le_mul_left _ (Nat.succ_le_succ (course.saved_le ready)))
  sends := course.forall_attempts fun _ attempted => by
    obtain ⟨verdicts, hgave⟩ := attempted.gave
    rw [hgave.handings, List.length_zipWith, attempted.batch]
    exact ⟨Nat.min_le_left _ _, List.length_take_le _ _⟩
  saves := course.forall_attempts fun _ attempted => attempted.saves

theorem Course.accounts (positive : 1 ≤ d.batchSize) (course : d.Course w as w₁)
    (ready : w.Ready) {fuel : Nat} {report : DispatchReport}
    (ended : RunEnded fuel { cycles := 0, delivered := 0, failed := 0 } as (some (.ok report))) :
    Accounts w.memory.mails w₁.memory.mails as report := by
  obtain ⟨rfl, a, before, rfl, hempty⟩ := ended
  have hdrained := course.drained positive hempty
  have htotal := course.pending ready
  rw [hdrained, List.length_nil, Nat.zero_add] at htotal
  refine ⟨hdrained, ?_, Nat.zero_add _, ?_, a, before, rfl, hempty⟩
  · rw [← htotal]
    exact Nat.zero_add _
  · rw [List.countP_eq_length_filter]
    exact Nat.zero_add _

/-- A run ends by itself, after no more cycles than one for each pending mail and one more;
and a report that it answers with accounts for every mail. -/
theorem run_drains (d : Dispatcher) (positive : 1 ≤ d.batchSize) {rt : Runtime (MailRoom S)}
    (ready : rt.world.Ready) (unseen : rt.world.attempts = []) (free : rt.deadline = none) :
    ∃ answer rt', (∀ fuel, (Mail.pending rt.world.memory.mails).length < fuel →
        Virtual.runOn (d.run fuel) rt = (.ok (some answer), rt'))
      ∧ d.Sparing (Mail.pending rt.world.memory.mails).length rt'.world.attempts
      ∧ ∀ report, answer = .ok report →
        Accounts rt.world.memory.mails rt'.world.memory.mails rt'.world.attempts report := by
  obtain ⟨answer, rt', as, hrun, course, hbounded, hended⟩ :=
    d.exists_run ((Mail.pending rt.world.memory.mails).length + 1) ready free
  have hattempts := course.attempts
  rw [unseen, List.append_nil] at hattempts
  rw [← hattempts] at course hbounded hended
  cases answer with
  | none =>
    -- More batches would have been saved than mails were pending.
    have hsaved := course.saved_le ready
    rw [RunEnded] at hended
    omega
  | some answer =>
    refine ⟨answer, rt', fun fuel enough => d.runOn_runFrom_of_le enough hrun,
      course.sparing ready hbounded, ?_⟩
    rintro report rfl
    exact course.accounts positive ready hended

/-- A relay that refuses every other mail, and a save that fails. -/
theorem run_drains_small :
    ∃ rt', Virtual.runOn ((ofConfig .default).run 3) (Runtime.new .counting MailRoom.small)
        = (.ok (some (.ok { cycles := 3, delivered := 2, failed := 1 })), rt')
      ∧ (ofConfig .default).Sparing 2 rt'.world.attempts
      ∧ Accounts MailRoom.small.memory.mails rt'.world.memory.mails rt'.world.attempts
        { cycles := 3, delivered := 2, failed := 1 } := by
  have hready : (Runtime.new .counting MailRoom.small).world.Ready := MailRoom.ready_small
  obtain ⟨answer, rt', hrun, hsparing, haccounts⟩ :=
    run_drains (ofConfig .default) (by decide) hready rfl rfl
  have hthree := hrun 3 (by decide)
  have hreport : (Virtual.runOn ((ofConfig .default).run 3)
      (Runtime.new .counting MailRoom.small)).1.toOption.join.bind Except.toOption
        = some { cycles := 3, delivered := 2, failed := 1 } := by
    decide +kernel
  rw [hthree] at hreport
  cases answer with
  | error e => cases hreport
  | ok report =>
    obtain rfl := Option.some.inj hreport
    exact ⟨rt', hthree, hsparing, haccounts _ rfl⟩

end Dispatcher

end Gatehouse
