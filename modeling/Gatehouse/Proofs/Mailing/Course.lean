/-
  Gatehouse/Proofs/Mailing/Course.lean --- what a run of the dispatcher is made of.

  A run is one attempt after the other, whatever ends it.  A cycle adds some attempts, of
  which only the last may complete it; the report of a run is read off its completed
  attempts.  A run is never given up itself: a deadline or a request to stop is what it
  answers.

  Main definitions: `Dispatcher.Course`, `DispatchReport.plus`, `Dispatcher.RunEnded`.
  Main statements: `Dispatcher.ends_cycle`, `Dispatcher.ends_runFrom`.
-/
import Gatehouse.Proofs.Mailing.Attempts

set_option autoImplicit false

namespace Gatehouse

/-! ## Attempts in a row -/

namespace MailRoom

variable {S : Surroundings} {w w₁ w₂ : MailRoom S} {a : Attempt}

theorem Still.ready (still : w.Still w₁) (ready : w.Ready) : w₁.Ready where
  unplanned := by rw [still.memory]; exact ready.unplanned
  stored := by rw [still.memory]; exact ready.stored
  distinct := by rw [still.memory]; exact ready.distinct

theorem UnderWay.still (under : w.UnderWay a w₁) (still : w₁.Still w₂) : w.UnderWay a w₂ where
  attempts := still.attempts.trans under.attempts
  batches := by rw [still.memory]; exact under.batches
  mails := by rw [still.memory]; exact under.mails

end MailRoom

namespace Dispatcher

variable {S : Surroundings} {d : Dispatcher} {w w₁ w₂ : MailRoom S} {a : Attempt}
  {as bs : List Attempt}

/-- Whether some attempts, the last first, are all that happened. -/
inductive Course (d : Dispatcher) (w : MailRoom S) : List Attempt → MailRoom S → Prop where
  | start {w₁ : MailRoom S} (still : w.Still w₁) : Course d w [] w₁
  | attempt {as : List Attempt} {a : Attempt} {w₁ w₂ : MailRoom S} (course : Course d w as w₁)
      (attempted : d.Attempted w₁ a w₂) : Course d w (a :: as) w₂

theorem Attempted.still (attempted : d.Attempted w a w₁) (still : w₁.Still w₂) :
    d.Attempted w a w₂ :=
  { attempted with under := attempted.under.still still }

namespace Course

theorem nothing (d : Dispatcher) (w : MailRoom S) : d.Course w [] w := .start ⟨rfl, rfl⟩

theorem still (course : d.Course w as w₁) (still : w₁.Still w₂) : d.Course w as w₂ := by
  cases course with
  | start before =>
    exact .start ⟨still.memory.trans before.memory, still.attempts.trans before.attempts⟩
  | attempt course attempted => exact .attempt course (attempted.still still)

theorem ready (course : d.Course w as w₁) (ready : w.Ready) : w₁.Ready := by
  induction course with
  | start still => exact still.ready ready
  | attempt _ attempted ih => exact attempted.under.ready ih

theorem attempts (course : d.Course w as w₁) : w₁.attempts = as ++ w.attempts := by
  induction course with
  | start still => exact still.attempts
  | attempt _ attempted ih => rw [attempted.under.attempts, ih, List.cons_append]

/-- One course after the other is a course. -/
theorem append (before : d.Course w as w₁) (after : d.Course w₁ bs w₂) :
    d.Course w (bs ++ as) w₂ := by
  induction after with
  | start still => exact before.still still
  | attempt _ attempted ih => exact .attempt ih attempted

end Course

end Dispatcher

/-! ## Reports -/

theorem Attempt.judged_of_empty {a : Attempt} (h : a.batch = []) (v : Bool) : a.judged v = [] := by
  have hsublist := a.judged_sublist v
  rw [h] at hsublist
  exact List.sublist_nil.1 hsublist

namespace DispatchReport

/-- A report with the completed cycles among some attempts counted in. -/
def plus (r : DispatchReport) (as : List Attempt) : DispatchReport :=
  let completed := as.filter Attempt.isCompleted
  { cycles := r.cycles + completed.length
    delivered := r.delivered + (completed.map fun a => a.accepted.length).sum
    failed := r.failed + (completed.map fun a => a.refused.length).sum }

theorem plus_append (r : DispatchReport) (as bs : List Attempt) :
    r.plus (bs ++ as) = (r.plus as).plus bs := by
  simp only [plus, List.filter_append, List.length_append, List.map_append, List.sum_append_nat,
    DispatchReport.mk.injEq]
  omega

/-- Attempts that complete no cycle do not count. -/
theorem plus_of_uncompleted {as : List Attempt} (h : ∀ a ∈ as, a.isCompleted = false)
    (r : DispatchReport) : r.plus as = r := by
  have hnone : as.filter Attempt.isCompleted = [] :=
    List.filter_eq_nil_iff.2 fun a ha => by rw [h a ha]; exact Bool.false_ne_true
  rw [plus, hnone]
  rfl

/-- A cycle counts as the attempt that completes it. -/
theorem plus_cycle {a : Attempt} {failed : List Attempt}
    (h : ∀ b ∈ failed, b.isCompleted = false) (completed : a.isCompleted = true)
    (r : DispatchReport) :
    r.plus (a :: failed)
      = { cycles := r.cycles + 1
          delivered := r.delivered + a.accepted.length
          failed := r.failed + a.refused.length } := by
  rw [← List.singleton_append, plus_append, plus_of_uncompleted h, plus,
    List.filter_cons_of_pos completed]
  rfl

end DispatchReport

/-! ## Cycles -/

namespace Dispatcher

variable {S : Surroundings} {w w₁ w₂ : MailRoom S} {a : Attempt} {as bs : List Attempt}
  (d : Dispatcher)

/-- Whether a result of a cycle is the one of its attempts: the last one completes it,
and the others do not. -/
def CycleEnded (as : List Attempt) : Except Failure CycleOutcome → Prop
  | .ok outcome => ∃ a failed, as = a :: failed ∧ (∀ b ∈ failed, b.isCompleted = false)
      ∧ a.Ended (.ok outcome)
  | .error _ => True

/-- Whether some attempts may be those of one cycle. -/
structure OneCycle (as : List Attempt) : Prop where
  few : as.length ≤ d.processRetrier.maxRetries + 1
  uncompleted : ∀ b ∈ as.tail, b.isCompleted = false

/-- The attempts of a cycle, to the last one or to where it is given up. -/
theorem ends_retries (ready : w.Ready) :
    Virtual.Ends (d.processRetrier.process d.process :
        MailRoom.Run S (Except Failure CycleOutcome)) w
      (fun result w' => ∃ as, d.Course w as w' ∧ d.OneCycle as ∧ CycleEnded as result)
      (fun _ w' => ∃ as, d.Course w as w' ∧ d.OneCycle as) := by
  -- After `k` failures there were `k` attempts, none of which completes the cycle.
  refine (Retrier.ends_process d.processRetrier
    (fun k w' => k ≤ d.processRetrier.maxRetries + 1
      ∧ ∃ as, d.Course w as w' ∧ as.length = k ∧ ∀ b ∈ as, b.isCompleted = false)
    (fun outcome w' => ∃ as, d.Course w as w' ∧ d.OneCycle as ∧ CycleEnded as (.ok outcome))
    ?_ ?_ ⟨Nat.zero_le _, [], .nothing d w, rfl, nofun⟩).mono ?_ fun _ _ h => h
  · rintro _ w₁ hk ⟨hle, as, course, rfl, uncompleted⟩
    have hsame : d.OneCycle as := ⟨hle, fun b hb => uncompleted b (List.mem_of_mem_tail hb)⟩
    have hmore : ∀ a, d.OneCycle (a :: as) := fun a => ⟨Nat.succ_le_succ hk, uncompleted⟩
    refine (d.ends_process (course.ready ready)).mono ?_ ?_
    · rintro result w₂ ⟨a, attempted, ended⟩
      have hcourse := Course.attempt course attempted
      cases result with
      | ok outcome => exact ⟨_, hcourse, hmore a, a, as, rfl, uncompleted, ended⟩
      | error e =>
        exact ⟨Nat.succ_le_succ hk, _, hcourse, rfl, List.forall_mem_cons.2 ⟨ended, uncompleted⟩⟩
    · rintro _ w₂ (still | ⟨a, attempted⟩)
      · exact ⟨as, course.still still, hsame⟩
      · exact ⟨a :: as, .attempt course attempted, hmore a⟩
  · rintro _ w₁ _ ⟨hle, as, course, rfl, uncompleted⟩
    exact ⟨as, course, hle, fun b hb => uncompleted b (List.mem_of_mem_tail hb)⟩
  · intro result w' h
    cases result with
    | ok outcome => exact h
    | error e =>
      obtain ⟨-, as, course, hlen, uncompleted⟩ := h
      have htail : ∀ b ∈ as.tail, b.isCompleted = false := fun b hb =>
        uncompleted b (List.mem_of_mem_tail hb)
      exact ⟨as, course, ⟨Nat.le_of_eq hlen, htail⟩, trivial⟩

/-- One cycle, to its end or to where the program is asked to stop. -/
theorem ends_cycle (ready : w.Ready) :
    Virtual.Ends (d.cycle : MailRoom.Run S (Except Failure CycleOutcome)) w
      (fun result w' => ∃ as, d.Course w as w' ∧ d.OneCycle as ∧ CycleEnded as result)
      (fun c w' => c = .stop ∧ ∃ as, d.Course w as w' ∧ d.OneCycle as) := by
  unfold cycle
  refine .bind (.within ((d.ends_retries ready).due.mono ?_ ?_))
  · intro result w' h
    exact .pure h
  · rintro c w' ⟨hdue, as, course, hcycle⟩
    cases c with
    | deadline =>
      rw [if_pos rfl]
      exact .pure ⟨as, course, hcycle, trivial⟩
    | stop =>
      rw [if_neg nofun]
      exact ⟨rfl, as, course, hcycle⟩
    | overflow => exact absurd rfl hdue

/-! ## Runs -/

/-- Whether there are no more attempts and completed cycles than the saved batches of a
run and one more cycle explain. -/
structure Bounded (as : List Attempt) : Prop where
  attempts : as.length ≤ (d.processRetrier.maxRetries + 1) * (as.countP Attempt.isSaved + 1)
  completed : as.countP Attempt.isCompleted ≤ as.countP Attempt.isSaved + 1

variable {d}

theorem OneCycle.completed_le (h : d.OneCycle as) : as.countP Attempt.isCompleted ≤ 1 := by
  cases as with
  | nil => exact Nat.zero_le _
  | cons a before =>
    have hbefore : before.countP Attempt.isCompleted = 0 :=
      List.countP_eq_zero.2 fun b hb => by rw [h.uncompleted b hb]; exact Bool.false_ne_true
    rw [List.countP_cons, hbefore]
    split
    · exact Nat.le_refl _
    · exact Nat.zero_le _

theorem OneCycle.bounded (h : d.OneCycle as) : d.Bounded as where
  attempts := Nat.le_trans h.few (Nat.le_mul_of_pos_right _ (Nat.succ_pos _))
  completed := Nat.le_trans h.completed_le (Nat.le_add_left _ _)

/-- One more cycle in front, in which a batch was saved, keeps the bounds. -/
theorem Bounded.after (h : d.Bounded bs) (cycle : d.OneCycle as)
    (saved : 0 < as.countP Attempt.isSaved) : d.Bounded (bs ++ as) where
  attempts := by
    rw [List.length_append, List.countP_append]
    calc bs.length + as.length
        ≤ (d.processRetrier.maxRetries + 1) * (bs.countP Attempt.isSaved + 1)
            + (d.processRetrier.maxRetries + 1) := Nat.add_le_add h.attempts cycle.few
      _ = (d.processRetrier.maxRetries + 1) * (bs.countP Attempt.isSaved + 1 + 1) :=
          (Nat.mul_succ _ _).symm
      _ ≤ (d.processRetrier.maxRetries + 1)
            * (bs.countP Attempt.isSaved + as.countP Attempt.isSaved + 1) :=
          Nat.mul_le_mul_left _ (by omega)
  completed := by
    have hbs := h.completed
    have has := cycle.completed_le
    rw [List.countP_append, List.countP_append]
    omega

/-- Whether an answer of a run is the one of its attempts.  A run that has used up its
cycles has saved a batch in each of them; a report counts the completed cycles, the last
of which had nothing to fetch. -/
def RunEnded (fuel : Nat) (r : DispatchReport) (as : List Attempt) :
    Option (Except Failure DispatchReport) → Prop
  | none => fuel ≤ as.countP Attempt.isSaved
  | some (.ok report) => report = r.plus as ∧ ∃ a before, as = a :: before ∧ a.batch = []
  | some (.error _) => True

/-- What a run answers after one more cycle in which a batch was saved. -/
theorem RunEnded.after {fuel : Nat} {r : DispatchReport}
    {answer : Option (Except Failure DispatchReport)} (saved : 0 < as.countP Attempt.isSaved)
    (h : RunEnded fuel (r.plus as) bs answer) : RunEnded (fuel + 1) r (bs ++ as) answer := by
  match answer, h with
  | none, h =>
    rw [RunEnded] at h ⊢
    rw [List.countP_append]
    omega
  | some (.ok report), ⟨hreport, a, before, hbs, hempty⟩ =>
    refine ⟨?_, a, before ++ as, ?_, hempty⟩
    · rw [hreport, DispatchReport.plus_append]
    · rw [hbs, List.cons_append]
  | some (.error _), _ => trivial

variable (d)

/-- A run that is asked to stop ends with what there was so far. -/
theorem ends_cancelled {fuel : Nat} {r : DispatchReport} (course : d.Course w as w₁)
    (bounded : d.Bounded as) (total : DispatchReport) :
    Virtual.Ends (some <$> cancelled total :
        MailRoom.Run S (Option (Except Failure DispatchReport))) w₁
      (fun answer w' => ∃ as, d.Course w as w' ∧ d.Bounded as ∧ RunEnded fuel r as answer)
      (fun c _ => c = .deadline) :=
  .map (.bind (.log (.pure ⟨as, course, bounded, trivial⟩)))

/-- A run, to its end. -/
theorem ends_runFrom (fuel : Nat) (r : DispatchReport) (ready : w.Ready) :
    Virtual.Ends (d.runFrom fuel r :
        MailRoom.Run S (Option (Except Failure DispatchReport))) w
      (fun answer w' => ∃ as, d.Course w as w' ∧ d.Bounded as ∧ RunEnded fuel r as answer)
      (fun c _ => c = .deadline) := by
  have hnothing : d.Bounded [] := ⟨Nat.zero_le _, Nat.zero_le _⟩
  -- The rest of the run goes on where the attempts of its first cycle end.
  induction fuel generalizing r w with
  | zero => exact .pure ⟨[], .nothing d w, hnothing, Nat.le_refl 0⟩
  | succ fuel ih =>
    rw [runFrom]
    refine .bind (.unlessStopped ?_ ((d.ends_cycle ready).mono ?_ ?_))
    · exact d.ends_cancelled (.nothing d w) hnothing r
    · rintro result w₁ ⟨as, course, hcycle, hended⟩
      match result, hended with
      | .error e, _ => exact .pure ⟨as, course, hcycle.bounded, trivial⟩
      | .ok .drained, ⟨a, before, has, uncompleted, hempty⟩ =>
        have hreport :=
          DispatchReport.plus_cycle uncompleted (Attempt.isCompleted_of_empty hempty) r
        rw [Attempt.accepted, Attempt.refused, Attempt.judged_of_empty hempty,
          Attempt.judged_of_empty hempty, ← has] at hreport
        exact .bind (.log (.pure
          ⟨as, course, hcycle.bounded, hreport.symm, a, before, has, hempty⟩))
      | .ok (.delivered delivered failed), ⟨a, before, has, uncompleted, hsaved, hd, hf⟩ =>
        have hreport :=
          DispatchReport.plus_cycle uncompleted (Attempt.isCompleted_of_isSaved hsaved) r
        rw [← hd, ← hf, ← has] at hreport
        have hcount : 0 < as.countP Attempt.isSaved := by
          rw [has, List.countP_cons_of_pos hsaved]
          exact Nat.succ_pos _
        refine .bind (.unlessStopped ?_ (.pause ?_ ?_))
        · exact d.ends_cancelled course hcycle.bounded _
        · have hrest := ih (r.plus as) (course.ready ready)
          rw [hreport] at hrest
          refine hrest.mono ?_ fun _ _ h => h
          rintro answer w₂ ⟨bs, course', hbounded, hanswer⟩
          rw [← hreport] at hanswer
          exact ⟨bs ++ as, course.append course', hbounded.after hcycle hcount,
            hanswer.after hcount⟩
        · intro c hdue
          cases c with
          | deadline => exact rfl
          | stop => exact d.ends_cancelled course hcycle.bounded _
          | overflow => exact absurd rfl hdue
    · rintro c w' ⟨rfl, as, course, hcycle⟩
      exact d.ends_cancelled course hcycle.bounded r

/-- A run ends: nothing gives it up as long as it has no deadline of its own. -/
theorem exists_run (fuel : Nat) {rt : Runtime (MailRoom S)} (ready : rt.world.Ready)
    (free : rt.deadline = none) :
    ∃ answer rt' as, Virtual.runOn (d.run fuel) rt = (.ok answer, rt')
      ∧ d.Course rt.world as rt'.world ∧ d.Bounded as
      ∧ RunEnded fuel { cycles := 0, delivered := 0, failed := 0 } as answer := by
  obtain ⟨answer, rt', hrun, as, course, hbounded, hanswer⟩ :=
    (d.ends_runFrom fuel { cycles := 0, delivered := 0, failed := 0 } ready).exists_ok rfl free
  exact ⟨answer, rt', as, hrun, course, hbounded, hanswer⟩

end Dispatcher

end Gatehouse
