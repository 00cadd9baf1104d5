/-
  Gatehouse/Proofs/Retrying.lean --- what a retrier does around its operation.

  A retrier calls an operation, reports and waits.  Here all three are written down in
  the order in which they happen, and the operation is given by its outcomes: one for
  each call that may be made.  A call that fails while retries are left adds three
  entries and passes the budget on, smaller by one; from this the whole record follows
  for any number of failures.

  Main definitions: `Trial`, `Trials.scripted`, `Retrier.round`.
  Main statement: `Retrier.process_record`.
-/
import Gatehouse.Retrier

set_option autoImplicit false

namespace Gatehouse

/-! ## The record -/

/-- One thing that is done while an operation is tried. -/
inductive Trial (α : Type) where
  /-- The operation was called and had an outcome. -/
  | called (outcome : Except Failure α)
  | reported (o : Observation)
  | paused (ms : Nat)

/-- A computation that keeps a record of its trials. -/
abbrev Trials (α : Type) := StateM (List (Trial α))

namespace Trials

variable {α : Type}

instance : MonadObserve (Trials α) where
  observe o := modify fun record => record ++ [.reported o]

instance : MonadPause (Trials α) where
  pause ms := modify fun record => record ++ [.paused ms]

/-- How many calls a record has. -/
def calls : List (Trial α) → Nat
  | [] => 0
  | .called _ :: record => calls record + 1
  | .reported _ :: record | .paused _ :: record => calls record

/-- The operation whose calls have the given outcomes, from number zero on. -/
def scripted (outcomes : Nat → Except Failure α) : Trials α (Except Failure α) := do
  let outcome := outcomes (calls (← get))
  modify fun record => record ++ [.called outcome]
  pure outcome

theorem calls_append (record more : List (Trial α)) :
    calls (record ++ more) = calls record + calls more := by
  induction record with
  | nil => exact (Nat.zero_add _).symm
  | cons t record ih =>
    cases t with
    | called outcome =>
      simp only [List.cons_append, calls, ih]
      omega
    | reported o => exact ih
    | paused ms => exact ih

end Trials

namespace Retrier

open Trials

variable {α : Type} (r : Retrier)

/-- The warning about attempt number `attempt`, which failed. -/
def warning (failure : Failure) (attempt : Nat) : Observation :=
  { isError := false, event := "process failed in retrier", failure
    fields := [("operation", r.operation), ("attempt", toString attempt)] }

/-- A call that fails and is reported. -/
def failedCall (failure : Failure) (attempt : Nat) : List (Trial α) :=
  [.called (.error failure), .reported (r.warning failure attempt)]

/-- A call that fails, is reported and is followed by a pause, for another attempt. -/
def round (failure : Failure) (attempt : Nat) : List (Trial α) :=
  r.failedCall failure attempt ++ [.paused r.delay]

/-- The record of the first `n` calls, which fail and are each tried again. -/
def rounds (failures : Nat → Failure) (n : Nat) : List (Trial α) :=
  (List.range n).flatMap fun i => r.round (failures i) (i + 1)

theorem rounds_succ (failures : Nat → Failure) (n : Nat) :
    r.rounds (α := α) failures (n + 1) = r.rounds failures n ++ r.round (failures n) (n + 1) := by
  rw [rounds, List.range_succ, List.flatMap_append, List.flatMap_singleton]
  rfl

theorem calls_rounds (failures : Nat → Failure) (n : Nat) :
    calls (r.rounds (α := α) failures n) = n := by
  induction n with
  | zero => rfl
  | succ n ih =>
    rw [rounds_succ, calls_append, ih]
    rfl

/-! ## Single attempts -/

variable {outcomes : Nat → Except Failure α} {record : List (Trial α)} (left number : Nat)

theorem run_attempts_ok {value : α} (h : outcomes (calls record) = .ok value) :
    (r.attempts (scripted outcomes) left number).run record
      = (.ok value, record ++ [.called (.ok value)]) := by
  rw [attempts]
  simp only [scripted, StateT.run_bind, StateT.run_get, StateT.run_modify, StateT.run_pure, h,
    pure_bind]
  rfl

theorem run_attempts_last {failure : Failure} (h : outcomes (calls record) = .error failure) :
    (r.attempts (scripted outcomes) 0 number).run record
      = (.error (.retriesExhausted number failure), record ++ r.failedCall failure number) := by
  rw [attempts]
  simp only [scripted, StateT.run_bind, StateT.run_get, StateT.run_modify, StateT.run_pure, h,
    pure_bind, observeWarning, observe]
  rw [List.append_assoc]
  rfl

theorem run_attempts_more {failure : Failure} (h : outcomes (calls record) = .error failure) :
    (r.attempts (scripted outcomes) (left + 1) number).run record
      = (r.attempts (scripted outcomes) left (number + 1)).run
          (record ++ r.round failure number) := by
  rw [attempts]
  simp only [scripted, StateT.run_bind, StateT.run_get, StateT.run_modify, StateT.run_pure, h,
    pure_bind, observeWarning, observe, pause]
  rw [List.append_assoc, List.append_assoc]
  rfl

/-! ## Whole runs -/

/-- Failures within the budget only use it up. -/
theorem run_attempts_rounds {failures : Nat → Failure} {n : Nat}
    (failed : ∀ i < n, outcomes i = .error (failures i)) :
    (r.attempts (scripted outcomes) (n + left) 1).run []
      = (r.attempts (scripted outcomes) left (n + 1)).run (r.rounds failures n) := by
  -- The budget shrinks at the front while the record grows at the end.
  induction n generalizing left with
  | zero => rw [Nat.zero_add]; rfl
  | succ n ih =>
    have hcalls : outcomes (calls (r.rounds (α := α) failures n)) = .error (failures n) := by
      rw [calls_rounds]
      exact failed n n.lt_succ_self
    calc (r.attempts (scripted outcomes) (n + 1 + left) 1).run []
        = (r.attempts (scripted outcomes) (n + (left + 1)) 1).run [] := by
          rw [Nat.add_assoc, Nat.add_comm 1 left]
      _ = (r.attempts (scripted outcomes) (left + 1) (n + 1)).run (r.rounds failures n) :=
          ih (left + 1) fun i hi => failed i (Nat.lt_succ_of_lt hi)
      _ = (r.attempts (scripted outcomes) left (n + 1 + 1)).run
            (r.rounds failures n ++ r.round (failures n) (n + 1)) :=
          r.run_attempts_more left (n + 1) hcalls
      _ = (r.attempts (scripted outcomes) left (n + 1 + 1)).run (r.rounds failures (n + 1)) := by
          rw [rounds_succ]

/-- An operation whose first success comes within the budget is called up to there and
gives its value; each call before fails and is followed by one warning and one pause.
An operation that fails at every call of the budget is not called again, and no pause
follows its last failure, which the result wraps. -/
theorem process_record (outcomes : Nat → Except Failure α) (failures : Nat → Failure) :
    (∀ k ≤ r.maxRetries, ∀ value, (∀ i < k, outcomes i = .error (failures i)) →
      outcomes k = .ok value → (r.process (scripted outcomes)).run []
        = (.ok value, r.rounds failures k ++ [.called (.ok value)]))
    ∧ ((∀ i ≤ r.maxRetries, outcomes i = .error (failures i)) →
        (r.process (scripted outcomes)).run []
          = (.error (.retriesExhausted (r.maxRetries + 1) (failures r.maxRetries)),
              r.rounds failures r.maxRetries
                ++ r.failedCall (failures r.maxRetries) (r.maxRetries + 1))) := by
  constructor
  · intro k hk value failed succeeded
    obtain ⟨left, hleft⟩ := Nat.exists_eq_add_of_le hk
    rw [process, hleft, run_attempts_rounds r left failed]
    apply run_attempts_ok
    rw [calls_rounds, succeeded]
  · intro failed
    refine (run_attempts_rounds r 0 fun i hi => failed i (Nat.le_of_lt hi)).trans ?_
    apply run_attempts_last
    rw [calls_rounds]
    exact failed r.maxRetries (Nat.le_refl _)

/-- With four retries, three failures are made up for; with two, they are not. -/
theorem process_record_three_failures :
    let outcomes (i : Nat) : Except Failure Nat :=
      if i < 3 then .error (.internal "down") else .ok 7
    let failed (r : Retrier) (attempt : Nat) : List (Trial Nat) :=
      [.called (.error (.internal "down")), .reported (r.warning (.internal "down") attempt)]
    let patient : Retrier := { operation := "test", maxRetries := 4, delay := 500 }
    let hasty : Retrier := { operation := "test", maxRetries := 2, delay := 500 }
    (patient.process (scripted outcomes)).run []
        = (.ok 7, failed patient 1 ++ [.paused 500] ++ failed patient 2 ++ [.paused 500]
            ++ failed patient 3 ++ [.paused 500] ++ [.called (.ok 7)])
      ∧ (hasty.process (scripted outcomes)).run []
        = (.error (.retriesExhausted 3 (.internal "down")),
            failed hasty 1 ++ [.paused 500] ++ failed hasty 2 ++ [.paused 500]
              ++ failed hasty 3) := by
  intro outcomes failed patient hasty
  have down : ∀ i < 3, outcomes i = .error (.internal "down") := fun i hi => if_pos hi
  constructor
  · exact (process_record patient outcomes fun _ => .internal "down").1 3 (by decide) 7 down rfl
  · exact (process_record hasty outcomes fun _ => .internal "down").2
      fun i hi => down i (Nat.lt_succ_of_le hi)

end Retrier

end Gatehouse
