/-
  Gatehouse/Proofs/Waiting.lean --- how time passes while something is done.

  Time passes in waits only.  A wait goes beyond neither the deadline nor the instant at
  which the program is asked to stop, and where it is cut, it is cut exactly there.  Both
  hold of everything that is built from waits, and with them a comparison of two runs:
  what ends within a deadline ends as it does when there is none, and what is given up at
  a deadline ends later, if at all, when there is none.

  Main definitions: `Runtime.Elapses`, `Virtual.Patient`, `Runtime.Undisturbed`.
  Main statements: `Virtual.Patient.bind`, `Virtual.Patient.within_cases`,
  `Virtual.unlessStopped_cases`, `Retrier.patient_process`.
-/
import Gatehouse.Proofs.Running
import Gatehouse.Retrier

set_option autoImplicit false

namespace Gatehouse

/-! ## The time of a run -/

namespace Runtime

variable {σ : Type} {rt rt₁ rt₂ : Runtime σ}

/-- The instant at which the program is asked to stop. -/
def stopInstant? (rt : Runtime σ) : Option Nat := rt.stop.map StopRequest.instant

/-- Whether the deadline, if there is one, is not over. -/
def InTime (rt : Runtime σ) : Prop := ∀ d ∈ rt.deadline, rt.elapsed ≤ d

/-- The state without a deadline. -/
def unhurried (rt : Runtime σ) : Runtime σ := { rt with deadline := none }

/-- The state some milliseconds later. -/
def later (rt : Runtime σ) (ms : Nat) : Runtime σ := { rt with elapsed := rt.elapsed + ms }

theorem inTime_of_deadline_eq_none (free : rt.deadline = none) : rt.InTime := by
  intro d hd
  rw [free] at hd
  cases hd

theorem unhurried_of_deadline_eq_none (free : rt.deadline = none) : rt.unhurried = rt := by
  cases rt
  cases free
  rfl

/-- Whether a state may follow another in a run: time has gone on, but neither beyond the
deadline nor beyond the instant of a request to stop, and both have stayed. -/
structure Elapses (rt rt' : Runtime σ) : Prop where
  deadline : rt'.deadline = rt.deadline
  stop : rt'.stopInstant? = rt.stopInstant?
  forward : rt.elapsed ≤ rt'.elapsed
  inTime : rt'.InTime
  unstopped : ∀ i ∈ rt.stopInstant?, rt'.elapsed ≤ max i rt.elapsed

/-- Whether something that began in a state was stopped in another, at the instant of the
request or at once when that was over. -/
def StoppedAt (rt rt' : Runtime σ) : Prop :=
  ∃ i, rt.stopInstant? = some i ∧ rt'.elapsed = max i rt.elapsed

namespace Elapses

theorem refl (inTime : rt.InTime) : rt.Elapses rt :=
  ⟨rfl, rfl, Nat.le_refl _, inTime, fun _ _ => Nat.le_max_right ..⟩

theorem trans (h : rt.Elapses rt₁) (h₁ : rt₁.Elapses rt₂) : rt.Elapses rt₂ := by
  refine ⟨h₁.deadline.trans h.deadline, h₁.stop.trans h.stop,
    Nat.le_trans h.forward h₁.forward, h₁.inTime, fun i hi => ?_⟩
  have hbefore := h.unstopped i hi
  have hafter := h₁.unstopped i (h.stop ▸ hi)
  omega

theorem logged (h : rt.Elapses rt₁) (e : LogEvent) : rt.Elapses (rt₁.logged e) :=
  ⟨h.deadline, h.stop, h.forward, h.inTime, h.unstopped⟩

theorem stoppedAt (h : rt.Elapses rt₁) (stopped : rt₁.StoppedAt rt₂) : rt.StoppedAt rt₂ := by
  obtain ⟨i, hi, hinstant⟩ := stopped
  rw [h.stop] at hi
  have hbefore := h.unstopped i hi
  have hforward := h.forward
  exact ⟨i, hi, by omega⟩

end Elapses

/-! ## Waits -/

variable {target instant : Nat}

theorem le_of_stopBefore?_eq_none (h : rt.stopBefore? target = none) :
    ∀ i ∈ rt.stopInstant?, target ≤ i := by
  intro i hi
  cases hstop : rt.stop with
  | none =>
    rw [stopInstant?, hstop] at hi
    cases hi
  | some s =>
    rw [stopInstant?, hstop] at hi
    cases hi
    rw [stopBefore?, hstop, Option.bind_some, ite_eq_right_iff] at h
    exact Nat.le_of_not_lt fun hlt => Option.some_ne_none _ (h (.inl hlt))

theorem of_stopBefore?_eq_some (h : rt.stopBefore? target = some instant) :
    ∃ i, rt.stopInstant? = some i ∧ i ≤ target ∧ instant = max i rt.elapsed := by
  cases hstop : rt.stop with
  | none =>
    rw [stopBefore?, hstop] at h
    cases h
  | some s =>
    rw [stopBefore?, hstop, Option.bind_some] at h
    split at h
    · rename_i hdue
      cases h
      refine ⟨s.instant, by rw [stopInstant?, hstop]; rfl, ?_, rfl⟩
      rcases hdue with hlt | ⟨heq, -⟩
      · exact Nat.le_of_lt hlt
      · exact Nat.le_of_eq heq
    · cases h

theorem le_of_deadlineBefore?_eq_none (h : rt.deadlineBefore? target = none) :
    ∀ d ∈ rt.deadline, target ≤ d := by
  intro d hd
  rw [deadlineBefore?, Option.mem_def.1 hd, Option.bind_some, ite_eq_right_iff] at h
  exact Nat.le_of_not_lt fun hlt => Option.some_ne_none _ (h hlt)

theorem of_deadlineBefore?_eq_some (h : rt.deadlineBefore? target = some instant) :
    rt.deadline = some instant ∧ instant < target := by
  cases hdeadline : rt.deadline with
  | none =>
    rw [deadlineBefore?, hdeadline] at h
    cases h
  | some d =>
    rw [deadlineBefore?, hdeadline, Option.bind_some] at h
    split at h
    · cases h
      exact ⟨rfl, ‹_›⟩
    · cases h

/-- An instant that is before the end of a wait and not after the stop that cuts it. -/
theorem le_max_of_le_stopBefore? (hlt : instant ≤ target)
    (hfirst : ∀ i ∈ rt.stopBefore? target, instant ≤ i) :
    ∀ i ∈ rt.stopInstant?, instant ≤ max i rt.elapsed := by
  intro i hi
  cases hstop : rt.stopBefore? target with
  | none =>
    have hafter := le_of_stopBefore?_eq_none hstop i hi
    omega
  | some n =>
    obtain ⟨i', hi', -, rfl⟩ := of_stopBefore?_eq_some hstop
    cases hi'.symm.trans hi
    exact hfirst _ hstop

/-- An instant that is before the end of a wait and not after the deadline that cuts it. -/
theorem le_of_le_deadlineBefore? (hle : instant ≤ target)
    (hfirst : ∀ d ∈ rt.deadlineBefore? target, instant ≤ d) :
    ∀ d ∈ rt.deadline, instant ≤ d := by
  intro d hd
  cases hdue : rt.deadlineBefore? target with
  | none => exact Nat.le_trans hle (le_of_deadlineBefore?_eq_none hdue d hd)
  | some d' =>
    cases (of_deadlineBefore?_eq_some hdue).1.symm.trans hd
    exact hfirst _ hdue

/-- Without a deadline, a wait is cut only by a request to stop. -/
theorem cutBefore?_unhurried (rt : Runtime σ) (target : Nat) :
    rt.unhurried.cutBefore? target = (rt.stopBefore? target).map fun i => (.stop, i) := by
  have hstop : rt.unhurried.stopBefore? target = rt.stopBefore? target := rfl
  have hdeadline : rt.unhurried.deadlineBefore? target = none := rfl
  rw [cutBefore?, hstop, hdeadline]
  cases rt.stopBefore? target
  · rfl
  · rfl

/-- The three ways in which a wait ends. -/
theorem cutBefore?_cases (rt : Runtime σ) (target : Nat) :
    (rt.cutBefore? target = none ∧ rt.stopBefore? target = none
        ∧ rt.deadlineBefore? target = none)
      ∨ (∃ i, rt.cutBefore? target = some (.stop, i) ∧ rt.stopBefore? target = some i
        ∧ ∀ d ∈ rt.deadlineBefore? target, i ≤ d)
      ∨ ∃ d, rt.cutBefore? target = some (.deadline, d) ∧ rt.deadlineBefore? target = some d
        ∧ ∀ i ∈ rt.stopBefore? target, d ≤ i := by
  unfold cutBefore?
  cases hstop : rt.stopBefore? target with
  | none =>
    cases hdeadline : rt.deadlineBefore? target with
    | none => exact .inl ⟨rfl, rfl, rfl⟩
    | some d => exact .inr (.inr ⟨d, rfl, rfl, nofun⟩)
  | some i =>
    cases hdeadline : rt.deadlineBefore? target with
    | none => exact .inr (.inl ⟨i, rfl, rfl, nofun⟩)
    | some d =>
      dsimp only
      split
      · rename_i hfirst
        refine .inr (.inl ⟨i, rfl, rfl, fun d' hd' => ?_⟩)
        cases hd'
        omega
      · rename_i hlast
        refine .inr (.inr ⟨d, rfl, rfl, fun i' hi' => ?_⟩)
        cases hi'
        omega

end Runtime

/-! ## Patience -/

namespace Virtual

variable {σ α β : Type} {rt : Runtime σ}

theorem runOn_within (act : Virtual σ α) (ms : Nat) (free : rt.deadline = none) :
    (within ms act).runOn rt
      = match act.runOn { rt with deadline := some (rt.elapsed + ms) } with
        | (.ok a, after) => (.ok (some a), after.unhurried)
        | (.error .deadline, after) => (.ok none, after.unhurried)
        | (.error c, after) => (.error c, after.unhurried) := by
  cases rt
  cases free
  rfl

theorem runOn_unlessStopped (act : Virtual σ α) :
    (unlessStopped act).runOn rt
      = if rt.isStopped then (.ok none, rt)
        else match act.runOn rt with
          | (.ok a, after) => (.ok (some a), after)
          | (.error .stop, after) => (.ok none, after)
          | (.error c, after) => (.error c, after) := rfl

/-- How a computation ends that begins in a state, compared with its run without the
deadline. -/
inductive Patience (act : Virtual σ α) (rt : Runtime σ) : Except Cut α → Runtime σ → Prop where
  | ended {a : α} {rt' : Runtime σ} (same : act.runOn rt.unhurried = (.ok a, rt'.unhurried)) :
      Patience act rt (.ok a) rt'
  /-- It is given up at the deadline and would have ended later. -/
  | overrun {rt' : Runtime σ} (due : rt.deadline = some rt'.elapsed)
      (late : ∀ a after, act.runOn rt.unhurried = (.ok a, after) → rt'.elapsed < after.elapsed) :
      Patience act rt (.error .deadline) rt'
  | stopped {rt' : Runtime σ} (stopped : rt.StoppedAt rt')
      (same : act.runOn rt.unhurried = (.error .stop, rt'.unhurried)) :
      Patience act rt (.error .stop) rt'

/-- Whether a computation passes its time in waits. -/
def Patient (act : Virtual σ α) : Prop :=
  ∀ rt, rt.InTime → ∃ result rt', act.runOn rt = (result, rt')
    ∧ rt.Elapses rt' ∧ Patience act rt result rt'

namespace Patient

variable {act : Virtual σ α}

/-- What takes no time and does not look at the deadline. -/
theorem of_instant (h : ∀ rt, ∃ a rt', act.runOn rt = (.ok a, rt')
      ∧ rt'.elapsed = rt.elapsed ∧ rt'.deadline = rt.deadline
      ∧ rt'.stopInstant? = rt.stopInstant?
      ∧ act.runOn rt.unhurried = (.ok a, rt'.unhurried)) : Patient act := by
  intro rt inTime
  obtain ⟨a, rt', hrun, helapsed, hdeadline, hstop, hsame⟩ := h rt
  refine ⟨.ok a, rt', hrun, ⟨hdeadline, hstop, Nat.le_of_eq helapsed.symm, ?_, ?_⟩, .ended hsame⟩
  · intro d hd
    rw [hdeadline] at hd
    rw [helapsed]
    exact inTime d hd
  · intro i _
    rw [helapsed]
    exact Nat.le_max_right ..

theorem pure (a : α) : Patient (Pure.pure a : Virtual σ α) :=
  of_instant fun rt => ⟨a, rt, rfl, rfl, rfl, rfl, rfl⟩

theorem log (e : LogEvent) : Patient (Gatehouse.log e : Virtual σ Unit) :=
  of_instant fun rt => ⟨(), rt.logged e, rfl, rfl, rfl, rfl, rfl⟩

theorem observe (o : Observation) : Patient (Gatehouse.observe o : Virtual σ Unit) := by
  refine of_instant fun rt => ?_
  cases hobserver : rt.observer with
  | record =>
    exact ⟨(), _, runOn_observe rt o hobserver, rfl, rfl, rfl, runOn_observe _ o hobserver⟩
  | trace =>
    cases rt
    cases hobserver
    exact ⟨(), _, rfl, rfl, rfl, rfl, rfl⟩

theorem pause (ms : Nat) : Patient (Gatehouse.pause ms : Virtual σ Unit) := by
  intro rt inTime
  have hrun : (Gatehouse.pause ms : Virtual σ Unit).runOn rt = Runtime.wait ms rt := rfl
  have hrun' : (Gatehouse.pause ms : Virtual σ Unit).runOn rt.unhurried
      = Runtime.wait ms rt.unhurried := rfl
  have htarget : rt.unhurried.elapsed + ms = rt.elapsed + ms := rfl
  rw [Runtime.wait, htarget, Runtime.cutBefore?_unhurried] at hrun'
  rw [Runtime.wait] at hrun
  rcases Runtime.cutBefore?_cases rt (rt.elapsed + ms) with
    ⟨hcut, hstop, hdeadline⟩ | ⟨i, hcut, hstop, hfirst⟩ | ⟨d, hcut, hdeadline, hfirst⟩
  · rw [hcut] at hrun
    rw [hstop] at hrun'
    refine ⟨.ok (), rt.later ms, hrun, ⟨rfl, rfl, Nat.le_add_right .., ?_, ?_⟩, .ended hrun'⟩
    · exact Runtime.le_of_deadlineBefore?_eq_none hdeadline
    · intro i hi
      exact Nat.le_trans (Runtime.le_of_stopBefore?_eq_none hstop i hi) (Nat.le_max_left ..)
  · rw [hcut] at hrun
    rw [hstop] at hrun'
    obtain ⟨s, hs, hle, rfl⟩ := Runtime.of_stopBefore?_eq_some hstop
    have htarget : max s rt.elapsed ≤ rt.elapsed + ms := by omega
    refine ⟨.error .stop, _, hrun, ⟨rfl, rfl, Nat.le_max_right .., ?_, ?_⟩,
      .stopped ⟨s, hs, rfl⟩ hrun'⟩
    · exact Runtime.le_of_le_deadlineBefore? htarget hfirst
    · intro i hi
      cases hs.symm.trans hi
      exact Nat.le_refl _
  · rw [hcut] at hrun
    obtain ⟨hd, hlt⟩ := Runtime.of_deadlineBefore?_eq_some hdeadline
    refine ⟨.error .deadline, _, hrun, ⟨rfl, rfl, inTime d hd, ?_, ?_⟩, .overrun hd ?_⟩
    · intro d' hd'
      cases hd.symm.trans hd'
      exact Nat.le_refl d
    · exact Runtime.le_max_of_le_stopBefore? (Nat.le_of_lt hlt) hfirst
    · intro a after hafter
      cases hstop : rt.stopBefore? (rt.elapsed + ms) with
      | none =>
        rw [hstop] at hrun'
        cases hrun'.symm.trans hafter
        exact hlt
      | some n =>
        rw [hstop] at hrun'
        cases hrun'.symm.trans hafter

theorem bind {x : Virtual σ α} {f : α → Virtual σ β} (hx : Patient x) (hf : ∀ a, Patient (f a)) :
    Patient (x >>= f) := by
  intro rt inTime
  obtain ⟨result, rt₁, hrun, helapses, hpatience⟩ := hx rt inTime
  cases hpatience with
  | @ended a _ same =>
    obtain ⟨result, rt₂, hrun₂, helapses₂, hpatience₂⟩ := hf a rt₁ helapses.inTime
    have hunhurried : (x >>= f).runOn rt.unhurried = (f a).runOn rt₁.unhurried := by
      rw [runOn_bind, same]
    refine ⟨result, rt₂, by rw [runOn_bind, hrun]; exact hrun₂, helapses.trans helapses₂, ?_⟩
    cases hpatience₂ with
    | ended same₂ => exact .ended (hunhurried.trans same₂)
    | overrun due late =>
      refine .overrun (helapses.deadline ▸ due) fun b after hafter => ?_
      exact late b after (hunhurried.symm.trans hafter)
    | stopped stopped same₂ =>
      exact .stopped (helapses.stoppedAt stopped) (hunhurried.trans same₂)
  | overrun due late =>
    refine ⟨.error .deadline, rt₁, by rw [runOn_bind, hrun], helapses, .overrun due ?_⟩
    intro b after hafter
    -- Without the deadline the first part ends late, and the rest does not end before it.
    obtain ⟨result, rt₁', hrun', helapses', -⟩ :=
      hx rt.unhurried (Runtime.inTime_of_deadline_eq_none rfl)
    rw [runOn_bind, hrun'] at hafter
    cases result with
    | error c => cases hafter
    | ok a =>
      obtain ⟨result₂, rt₂, hrun₂, helapses₂, -⟩ := hf a rt₁' helapses'.inTime
      have heq : (result₂, rt₂) = (.ok b, after) := hrun₂.symm.trans hafter
      cases heq
      exact Nat.lt_of_lt_of_le (late a rt₁' hrun') helapses₂.forward
  | stopped stopped same =>
    refine ⟨.error .stop, rt₁, by rw [runOn_bind, hrun], helapses, .stopped stopped ?_⟩
    rw [runOn_bind, same]

/-! ## Deadlines and requests to stop -/

/-- Without a deadline, work either ends or is stopped. -/
theorem cases_of_free (h : Patient act) (free : rt.deadline = none) :
    ∃ result rt', act.runOn rt = (result, rt') ∧ rt.Elapses rt'
      ∧ ((∃ a, result = .ok a) ∨ (result = .error .stop ∧ rt.StoppedAt rt')) := by
  obtain ⟨result, rt', hrun, helapses, hpatience⟩ :=
    h rt (Runtime.inTime_of_deadline_eq_none free)
  refine ⟨result, rt', hrun, helapses, ?_⟩
  cases hpatience with
  | ended same => exact .inl ⟨_, rfl⟩
  | overrun due late => cases free.symm.trans due
  | stopped stopped same => exact .inr ⟨rfl, stopped⟩

/-- Work within some milliseconds lasts no longer than these; it ends as it does with more
time, or is given up at the very end when it needs more. -/
theorem within_cases (h : Patient act) (free : rt.deadline = none) (ms : Nat) :
    ∃ result rt', (within ms act).runOn rt = (result, rt') ∧ rt.Elapses rt'
      ∧ rt'.elapsed ≤ rt.elapsed + ms
      ∧ ((∃ a, result = .ok (some a) ∧ act.runOn rt = (.ok a, rt'))
        ∨ (result = .ok none ∧ rt'.elapsed = rt.elapsed + ms
          ∧ ∀ a after, act.runOn rt = (.ok a, after) → rt.elapsed + ms < after.elapsed)
        ∨ (result = .error .stop ∧ rt.StoppedAt rt')) := by
  obtain ⟨result, after, hrun, helapses, hpatience⟩ :=
    h { rt with deadline := some (rt.elapsed + ms) } fun d hd => by
      cases hd
      exact Nat.le_add_right ..
  have hunhurried : ({ rt with deadline := some (rt.elapsed + ms) } : Runtime σ).unhurried = rt :=
    Runtime.unhurried_of_deadline_eq_none free
  have hle : after.elapsed ≤ rt.elapsed + ms := helapses.inTime _ helapses.deadline
  have helapses' : rt.Elapses after.unhurried :=
    ⟨free.symm, helapses.stop, helapses.forward, Runtime.inTime_of_deadline_eq_none rfl,
      helapses.unstopped⟩
  rw [runOn_within act ms free, hrun]
  cases hpatience with
  | @ended a _ same =>
    rw [hunhurried] at same
    exact ⟨_, _, rfl, helapses', hle, .inl ⟨a, rfl, same⟩⟩
  | overrun due late =>
    rw [hunhurried] at late
    have hend : after.elapsed = rt.elapsed + ms := (Option.some.inj due).symm
    exact ⟨_, _, rfl, helapses', hle, .inr (.inl ⟨rfl, hend, hend ▸ late⟩)⟩
  | stopped stopped same => exact ⟨_, _, rfl, helapses', hle, .inr (.inr ⟨rfl, stopped⟩)⟩

end Patient

/-- Without a deadline, a wait comes to its end unless it is stopped before. -/
theorem pause_cases (free : rt.deadline = none) (ms : Nat) :
    ∃ result rt', (pause ms : Virtual σ Unit).runOn rt = (result, rt') ∧ rt.Elapses rt'
      ∧ rt'.elapsed ≤ rt.elapsed + ms
      ∧ ((result = .ok () ∧ rt' = rt.later ms) ∨ (result = .error .stop ∧ rt.StoppedAt rt')) := by
  obtain ⟨result, rt', hrun, helapses, hend⟩ := (Patient.pause ms).cases_of_free free
  have hcut := rt.cutBefore?_unhurried (rt.elapsed + ms)
  rw [Runtime.unhurried_of_deadline_eq_none free] at hcut
  have hwait : (pause ms : Virtual σ Unit).runOn rt = Runtime.wait ms rt := rfl
  rw [hwait, Runtime.wait, hcut] at hrun
  refine ⟨result, rt', by rw [hwait, Runtime.wait, hcut, hrun], helapses, ?_⟩
  cases hstop : rt.stopBefore? (rt.elapsed + ms) with
  | none =>
    rw [hstop] at hrun
    cases hrun
    exact ⟨Nat.le_refl _, .inl ⟨rfl, rfl⟩⟩
  | some n =>
    rw [hstop] at hrun
    cases hrun
    obtain ⟨i, hi, hle, rfl⟩ := Runtime.of_stopBefore?_eq_some hstop
    refine ⟨?_, .inr ⟨rfl, i, hi, rfl⟩⟩
    dsimp only
    omega

theorem stoppedAt_of_isStopped (h : rt.isStopped = true) : rt.StoppedAt rt := by
  unfold Runtime.isStopped at h
  split at h
  · cases h
  · rename_i s hstop
    refine ⟨s.instant, by rw [Runtime.stopInstant?, hstop]; rfl, ?_⟩
    simp only [Bool.or_eq_true, Bool.and_eq_true, decide_eq_true_eq] at h
    omega

/-- Work that is given up only when it is stopped either ends or is not done in time, and
then it is the instant of the request. -/
theorem unlessStopped_cases {act : Virtual σ α} {result : Except Cut α} {rt' : Runtime σ}
    (free : rt.deadline = none) (hrun : act.runOn rt = (result, rt')) (elapses : rt.Elapses rt')
    (ends : (∃ a, result = .ok a) ∨ (result = .error .stop ∧ rt.StoppedAt rt')) :
    ∃ answer after, (unlessStopped act).runOn rt = (.ok answer, after) ∧ rt.Elapses after
      ∧ after.elapsed ≤ rt'.elapsed
      ∧ ((∃ a, answer = some a ∧ result = .ok a ∧ after = rt')
        ∨ (answer = none ∧ rt.StoppedAt after
          ∧ (rt.isStopped = true ∨ result = .error .stop))) := by
  rw [runOn_unlessStopped]
  by_cases hstopped : rt.isStopped = true
  · rw [if_pos hstopped]
    exact ⟨none, rt, rfl, .refl (Runtime.inTime_of_deadline_eq_none free), elapses.forward,
      .inr ⟨rfl, stoppedAt_of_isStopped hstopped, .inl hstopped⟩⟩
  rw [if_neg hstopped, hrun]
  rcases ends with ⟨a, rfl⟩ | ⟨rfl, hat⟩
  · exact ⟨some a, rt', rfl, elapses, Nat.le_refl _, .inl ⟨a, rfl, rfl, rfl⟩⟩
  · exact ⟨none, rt', rfl, elapses, Nat.le_refl _, .inr ⟨rfl, hat, .inr rfl⟩⟩

end Virtual

/-! ## Undisturbed runs -/

/-- Whether nothing ends a wait too early. -/
structure Runtime.Undisturbed {σ : Type} (rt : Runtime σ) : Prop where
  deadline : rt.deadline = none
  stop : rt.stop = none

namespace Runtime.Undisturbed

variable {σ : Type} {rt rt' : Runtime σ}

theorem logged (h : rt.Undisturbed) (e : LogEvent) : (rt.logged e).Undisturbed :=
  ⟨h.deadline, h.stop⟩

theorem later (h : rt.Undisturbed) (ms : Nat) : (rt.later ms).Undisturbed :=
  ⟨h.deadline, h.stop⟩

theorem stopInstant? (h : rt.Undisturbed) : rt.stopInstant? = none := by
  rw [Runtime.stopInstant?, h.stop, Option.map_none]

theorem not_stoppedAt (h : rt.Undisturbed) : ¬rt.StoppedAt rt' := by
  rintro ⟨i, hi, -⟩
  rw [h.stopInstant?] at hi
  cases hi

theorem elapses (h : rt.Undisturbed) (elapses : rt.Elapses rt') : rt'.Undisturbed := by
  have hstop := elapses.stop
  rw [h.stopInstant?, Runtime.stopInstant?, Option.map_eq_none_iff] at hstop
  exact ⟨elapses.deadline.trans h.deadline, hstop⟩

end Runtime.Undisturbed

namespace Virtual

variable {σ α β ε : Type} {rt : Runtime σ}

/-- An undisturbed wait comes to its end. -/
theorem runOn_pause (h : rt.Undisturbed) (ms : Nat) :
    (pause ms : Virtual σ Unit).runOn rt = (.ok (), rt.later ms) := by
  obtain ⟨result, rt', hrun, -, -, hend⟩ := pause_cases h.deadline ms
  rcases hend with ⟨rfl, rfl⟩ | ⟨-, hstopped⟩
  · exact hrun
  · exact absurd hstopped h.not_stoppedAt

/-- A failure is handed on at once. -/
theorem Patient.attempt_bind {x : ExceptT ε (Virtual σ) α} {f : α → ExceptT ε (Virtual σ) β}
    (hx : Patient x.run) (hf : ∀ a, Patient (f a).run) : Patient (x >>= f).run := by
  rw [ExceptT.run_bind]
  refine .bind hx fun r => ?_
  cases r with
  | ok a => exact hf a
  | error e => exact .pure _

end Virtual

/-! ## Trying again -/

namespace Retrier

variable {σ α : Type} {op : Virtual σ (Except Failure α)} (r : Retrier)

theorem patient_attempts (patient : Virtual.Patient op) (left number : Nat) :
    Virtual.Patient (r.attempts op left number) := by
  induction left generalizing number with
  | zero =>
    rw [attempts]
    refine .bind patient fun result => ?_
    cases result with
    | ok a => exact .pure _
    | error e => exact .bind (.observe _) fun _ => .pure _
  | succ left ih =>
    rw [attempts]
    refine .bind patient fun result => ?_
    cases result with
    | ok a => exact .pure _
    | error e =>
      exact .bind (.observe _) fun _ => .bind (.pause r.delay) fun _ => ih (number + 1)

theorem patient_process (patient : Virtual.Patient op) : Virtual.Patient (r.process op) :=
  r.patient_attempts patient r.maxRetries 1

end Retrier

end Gatehouse
