/-
  Gatehouse/Proofs/Mailing/Timing.lean --- when the cycles of a run begin and end.

  A run is told as a line of laps, its completed cycles, and the end to which it comes.
  A cycle lasts no longer than its time limit, with all its attempts and their pauses, and
  is given up at the limit only if it would have taken longer.  Between two laps there is
  one pause.  A request to stop ends the run at its instant, in the middle of a cycle or of
  a pause, with the totals of the laps before.

  Main definitions: `Lap`, `RunEnd`, `Dispatcher.Timeline`.
  Main statements: `Dispatcher.cycle_cases`, `Dispatcher.runFrom_timeline`,
  `Dispatcher.run_keeps_time`.
-/
import Gatehouse.Proofs.Mailing.Postroom

set_option autoImplicit false

namespace Gatehouse

/-! ## Totals -/

/-- How many mails a cycle delivered. -/
def CycleOutcome.deliveries : CycleOutcome → Nat
  | .drained => 0
  | .delivered count _ => count

/-- How many mails of a cycle were refused. -/
def CycleOutcome.refusals : CycleOutcome → Nat
  | .drained => 0
  | .delivered _ count => count

namespace DispatchReport

/-- A report with one more completed cycle counted in. -/
def count (r : DispatchReport) (o : CycleOutcome) : DispatchReport :=
  { cycles := r.cycles + 1
    delivered := r.delivered + o.deliveries
    failed := r.failed + o.refusals }

/-- A report with some completed cycles counted in. -/
def tally (r : DispatchReport) (outcomes : List CycleOutcome) : DispatchReport :=
  outcomes.foldl count r

end DispatchReport

/-! ## Cycles -/

/-- Whether a state is reached from another within some milliseconds. -/
structure Runtime.ReachedWithin {σ : Type} (ms : Nat) (rt rt' : Runtime σ) : Prop where
  forward : rt.elapsed ≤ rt'.elapsed
  short : rt'.elapsed ≤ rt.elapsed + ms

theorem Runtime.ReachedWithin.logged {σ : Type} {ms : Nat} {rt rt' : Runtime σ}
    (h : ReachedWithin ms rt rt') (e : LogEvent) : ReachedWithin ms rt (rt'.logged e) :=
  ⟨h.forward, h.short⟩

/-- A completed cycle: the state in which it began, its outcome and the state that it
left. -/
structure Lap (C : Counterparts) where
  before : Runtime (Postroom C)
  outcome : CycleOutcome
  after : Runtime (Postroom C)

namespace Dispatcher

open Postroom (Run Wrote)

variable {C : Counterparts} (d : Dispatcher)

/-- The attempts at a cycle, left to themselves. -/
abbrev tries : Run C (Except Failure CycleOutcome) := d.processRetrier.process d.process

/-- Whether a lap is a cycle of the dispatcher that was completed within the time limit:
its last attempt has its outcome. -/
structure Completed (lap : Lap C) : Prop where
  ran : Virtual.runOn d.cycle lap.before = (.ok (.ok lap.outcome), lap.after)
  inTime : lap.before.ReachedWithin d.processTimeout lap.after
  processed : ∃ earlier last reports, lap.after.world.entries
      = lap.before.world.entries ++ (earlier ++ last) ∧ d.Processed (.ok lap.outcome) last reports

/-- Whether a cycle that begins in a state is given up at its time limit: left to itself it
would have taken longer. -/
structure Overran (rt rt' : Runtime (Postroom C)) : Prop where
  due : rt'.elapsed = rt.elapsed + d.processTimeout
  late : ∀ result after, Virtual.runOn d.tries rt = (.ok result, after) →
    rt.elapsed + d.processTimeout < after.elapsed

/-- How a cycle that begins in a state ends. -/
inductive CycleEnd (rt : Runtime (Postroom C)) :
    Except Cut (Except Failure CycleOutcome) → Runtime (Postroom C) → Prop where
  | completed {outcome : CycleOutcome} {rt' : Runtime (Postroom C)}
      (lap : d.Completed ⟨rt, outcome, rt'⟩) : CycleEnd rt (.ok (.ok outcome)) rt'
  | exhausted {last : Failure} {rt' : Runtime (Postroom C)} :
      CycleEnd rt
        (.ok (.error (.retriesExhausted (d.processRetrier.maxRetries + 1) last))) rt'
  | overran {rt' : Runtime (Postroom C)} (overran : d.Overran rt rt') :
      CycleEnd rt (.ok (.error (.mailing (.timeout d.processTimeout)))) rt'
  | stopped {rt' : Runtime (Postroom C)} (stopped : rt.StoppedAt rt') :
      CycleEnd rt (.error .stop) rt'

/-- What attempts that are left to themselves end with. -/
theorem tries_cases {rt rt' : Runtime (Postroom C)} {result : Except Failure CycleOutcome}
    (hrun : Virtual.runOn d.tries rt = (.ok result, rt')) :
    (∃ last, result = .error (.retriesExhausted (d.processRetrier.maxRetries + 1) last))
      ∨ ∃ outcome earlier last reports, result = .ok outcome
          ∧ rt'.world.entries = rt.world.entries ++ (earlier ++ last)
          ∧ d.Processed (.ok outcome) last reports := by
  obtain ⟨es, os, hwrote, htried⟩ := d.processRetrier.returns_attempts d.returns_process
    d.processRetrier.maxRetries 1 rt result rt' hrun
  cases result with
  | error e =>
    obtain ⟨last, rfl⟩ := htried.exhausted
    exact .inl ⟨last, by rw [Nat.add_comm]⟩
  | ok outcome =>
    obtain ⟨earlier, last, reports, rfl, hprocessed⟩ := htried.last
    exact .inr ⟨outcome, earlier, last, reports, rfl, hwrote.entries, hprocessed⟩

/-- A cycle lasts no longer than its time limit, whatever happens in it. -/
theorem cycle_cases {rt : Runtime (Postroom C)} (free : rt.deadline = none) :
    ∃ result rt', Virtual.runOn d.cycle rt = (result, rt') ∧ rt.Elapses rt'
      ∧ rt.ReachedWithin d.processTimeout rt' ∧ d.CycleEnd rt result rt' := by
  obtain ⟨result, rt', hrun, helapses, hshort, hend⟩ :=
    (d.processRetrier.patient_process d.patient_process).within_cases free d.processTimeout
  have hinTime : rt.ReachedWithin d.processTimeout rt' := ⟨helapses.forward, hshort⟩
  unfold cycle
  rw [Virtual.runOn_bind, hrun]
  rcases hend with ⟨result, rfl, htries⟩ | ⟨rfl, hdue, hlate⟩ | ⟨rfl, hstopped⟩
  · rcases d.tries_cases htries with
      ⟨last, rfl⟩ | ⟨outcome, earlier, last, reports, rfl, hentries, hprocessed⟩
    · exact ⟨_, rt', rfl, helapses, hinTime, .exhausted⟩
    · refine ⟨_, rt', rfl, helapses, hinTime, .completed ⟨?_, hinTime, ?_⟩⟩
      · rw [cycle, Virtual.runOn_bind, hrun]
        rfl
      · exact ⟨earlier, last, reports, hentries, hprocessed⟩
  · exact ⟨_, rt', rfl, helapses, hinTime, .overran ⟨hdue, hlate⟩⟩
  · exact ⟨_, rt', rfl, helapses, hinTime, .stopped hstopped⟩

end Dispatcher

/-! ## Runs -/

/-- How a run ends. -/
inductive RunEnd where
  /-- There may be more cycles. -/
  | unfinished
  | drained
  | cancelled
  | timedOut
  | exhausted (last : Failure)

namespace Dispatcher

variable {C : Counterparts} (d : Dispatcher)

/-- The answer of a run with these totals. -/
def answer (total : DispatchReport) : RunEnd → Option (Except Failure DispatchReport)
  | .unfinished => none
  | .drained => some (.ok total)
  | .cancelled => some (.error (.mailing (.cancelled total.cycles total.delivered total.failed)))
  | .timedOut => some (.error (.mailing (.timeout d.processTimeout)))
  | .exhausted last =>
      some (.error (.retriesExhausted (d.processRetrier.maxRetries + 1) last))

/-- Whether a run that begins in a state has these laps and comes to this end in the last
state. -/
inductive Timeline : Runtime (Postroom C) → List (Lap C) → RunEnd → Runtime (Postroom C) →
    Prop where
  | unfinished {rt : Runtime (Postroom C)} : Timeline rt [] .unfinished rt
  /-- After a lap that delivered there is one pause, and at its end the next cycle begins. -/
  | next {lap : Lap C} {laps : List (Lap C)} {ending : RunEnd} {finish : Runtime (Postroom C)}
      (completed : d.Completed lap) (delivered : lap.outcome ≠ .drained)
      (rest : Timeline (lap.after.later d.delay) laps ending finish) :
      Timeline lap.before (lap :: laps) ending finish
  /-- After a lap that found nothing there is no pause. -/
  | drained {lap : Lap C} {finish : Runtime (Postroom C)} (completed : d.Completed lap)
      (drained : lap.outcome = .drained) (instant : finish.elapsed = lap.after.elapsed) :
      Timeline lap.before [lap] .drained finish
  /-- The run is stopped in the pause after a lap. -/
  | stoppedPausing {lap : Lap C} {finish : Runtime (Postroom C)} (completed : d.Completed lap)
      (delivered : lap.outcome ≠ .drained) (stopped : lap.after.StoppedAt finish)
      (pausing : lap.after.ReachedWithin d.delay finish) :
      Timeline lap.before [lap] .cancelled finish
  /-- The run is stopped before a cycle or in the middle of it. -/
  | stoppedWorking {rt finish : Runtime (Postroom C)} (stopped : rt.StoppedAt finish)
      (working : rt.ReachedWithin d.processTimeout finish)
      (uncompleted : rt.isStopped = true
        ∨ ∃ after, Virtual.runOn d.cycle rt = (.error .stop, after)) :
      Timeline rt [] .cancelled finish
  | timedOut {rt finish : Runtime (Postroom C)} (overran : d.Overran rt finish) :
      Timeline rt [] .timedOut finish
  | exhausted {rt finish : Runtime (Postroom C)} {last : Failure}
      (ran : Virtual.runOn d.cycle rt
        = (.ok (.error (.retriesExhausted (d.processRetrier.maxRetries + 1) last)), finish))
      (inTime : rt.ReachedWithin d.processTimeout finish) :
      Timeline rt [] (.exhausted last) finish

/-- A cycle that is begun unless the program is to stop. -/
theorem launch_cases {rt : Runtime (Postroom C)} (free : rt.deadline = none) :
    ∃ begun after, Virtual.runOn (unlessStopped d.cycle) rt = (.ok begun, after)
      ∧ rt.Elapses after ∧ rt.ReachedWithin d.processTimeout after
      ∧ ((∃ result, begun = some result ∧ Virtual.runOn d.cycle rt = (.ok result, after)
          ∧ d.CycleEnd rt (.ok result) after)
        ∨ (begun = none ∧ rt.StoppedAt after ∧ (rt.isStopped = true
          ∨ ∃ after, Virtual.runOn d.cycle rt = (.error .stop, after)))) := by
  obtain ⟨result, rt₁, hcycle, helapses, hinTime, hend⟩ := d.cycle_cases free
  have hends : (∃ a, result = .ok a) ∨ (result = .error .stop ∧ rt.StoppedAt rt₁) := by
    cases hend with
    | completed lap => exact .inl ⟨_, rfl⟩
    | exhausted => exact .inl ⟨_, rfl⟩
    | overran overran => exact .inl ⟨_, rfl⟩
    | stopped stopped => exact .inr ⟨rfl, stopped⟩
  obtain ⟨begun, after, hbegun, helapses', hbefore, hcases⟩ :=
    Virtual.unlessStopped_cases free hcycle helapses hends
  refine ⟨begun, after, hbegun, helapses',
    ⟨helapses'.forward, Nat.le_trans hbefore hinTime.short⟩, ?_⟩
  rcases hcases with ⟨a, rfl, rfl, rfl⟩ | ⟨rfl, hstopped, hwhy⟩
  · exact .inl ⟨a, rfl, hcycle, hend⟩
  · refine .inr ⟨rfl, hstopped, hwhy.imp_right ?_⟩
    rintro rfl
    exact ⟨rt₁, hcycle⟩

/-- A pause that is made unless the program is to stop. -/
theorem rest_cases {rt : Runtime (Postroom C)} (free : rt.deadline = none) :
    ∃ rested after, Virtual.runOn (unlessStopped (pause d.delay)) rt = (.ok rested, after)
      ∧ rt.Elapses after ∧ rt.ReachedWithin d.delay after
      ∧ ((rested = some () ∧ after = rt.later d.delay) ∨ (rested = none ∧ rt.StoppedAt after)) := by
  obtain ⟨result, rt₁, hpause, helapses, hshort, hend⟩ := Virtual.pause_cases free d.delay
  have hends : (∃ a, result = .ok a) ∨ (result = .error .stop ∧ rt.StoppedAt rt₁) := by
    rcases hend with ⟨rfl, -⟩ | stopped
    · exact .inl ⟨(), rfl⟩
    · exact .inr stopped
  obtain ⟨rested, after, hrested, helapses', hbefore, hcases⟩ :=
    Virtual.unlessStopped_cases free hpause helapses hends
  refine ⟨rested, after, hrested, helapses',
    ⟨helapses'.forward, Nat.le_trans hbefore hshort⟩, ?_⟩
  rcases hcases with ⟨a, rfl, rfl, rfl⟩ | ⟨rfl, hstopped, -⟩
  · rcases hend with ⟨-, hlater⟩ | ⟨hstop, -⟩
    · exact .inl ⟨rfl, hlater⟩
    · cases hstop
  · exact .inr ⟨rfl, hstopped⟩

theorem runOn_cancelled (r : DispatchReport) (rt : Runtime (Postroom C)) :
    ∃ e, Virtual.runOn (some <$> cancelled r) rt
      = (.ok (d.answer (r.tally []) .cancelled), rt.logged e) :=
  ⟨_, rfl⟩

/-- Whether an answer and a last state are those of a run with these laps and this end. -/
structure Told (fuel : Nat) (r : DispatchReport) (rt : Runtime (Postroom C)) (laps : List (Lap C))
    (ending : RunEnd) (answer : Option (Except Failure DispatchReport))
    (finish : Runtime (Postroom C)) : Prop where
  answer : answer = d.answer (r.tally (laps.map Lap.outcome)) ending
  timeline : d.Timeline rt laps ending finish
  elapses : rt.Elapses finish
  unfinished : ending = .unfinished → laps.length = fuel
  cancelled : ending = .cancelled → rt.StoppedAt finish

variable {d}

/-- A run that goes on after a lap and a pause has one lap more. -/
theorem Told.next {fuel : Nat} {r : DispatchReport} {lap : Lap C} {laps : List (Lap C)}
    {ending : RunEnd} {answer : Option (Except Failure DispatchReport)}
    {finish : Runtime (Postroom C)}
    (told : d.Told fuel (r.count lap.outcome) (lap.after.later d.delay) laps ending answer finish)
    (completed : d.Completed lap) (delivered : lap.outcome ≠ .drained)
    (elapses : lap.before.Elapses (lap.after.later d.delay)) :
    d.Told (fuel + 1) r lap.before (lap :: laps) ending answer finish where
  answer := told.answer
  timeline := .next completed delivered told.timeline
  elapses := elapses.trans told.elapses
  unfinished h := congrArg Nat.succ (told.unfinished h)
  cancelled h := elapses.stoppedAt (told.cancelled h)

variable (d)

theorem runFrom_timeline (fuel : Nat) (r : DispatchReport) {rt : Runtime (Postroom C)}
    (free : rt.deadline = none) :
    ∃ answer finish laps ending, Virtual.runOn (d.runFrom fuel r) rt = (.ok answer, finish)
      ∧ d.Told fuel r rt laps ending answer finish := by
  induction fuel generalizing r rt with
  | zero =>
    refine ⟨none, rt, [], .unfinished, rfl, rfl, .unfinished, ?_, fun _ => rfl, nofun⟩
    exact .refl (Runtime.inTime_of_deadline_eq_none free)
  | succ fuel ih =>
    obtain ⟨begun, rt₁, hbegun, helapses, hinTime, hcases⟩ := d.launch_cases free
    rw [runFrom, Virtual.runOn_bind, hbegun]
    rcases hcases with ⟨result, rfl, hcycle, hend⟩ | ⟨rfl, hstopped, hwhy⟩
    · cases hend with
      | exhausted =>
        exact ⟨_, rt₁, [], .exhausted _, rfl, rfl, .exhausted hcycle hinTime, helapses, nofun,
          nofun⟩
      | overran overran =>
        exact ⟨_, rt₁, [], .timedOut, rfl, rfl, .timedOut overran, helapses, nofun, nofun⟩
      | @completed outcome _ lap =>
        cases outcome with
        | drained =>
          exact ⟨_, _, [⟨rt, .drained, rt₁⟩], .drained, rfl, rfl, .drained lap rfl rfl,
            helapses.logged _, nofun, nofun⟩
        | delivered delivered failed =>
          have free₁ : rt₁.deadline = none := helapses.deadline.trans free
          obtain ⟨rested, rt₂, hrested, helapses₂, hpausing, hcases⟩ := d.rest_cases free₁
          dsimp only
          rw [Virtual.runOn_bind, hrested]
          rcases hcases with ⟨rfl, rfl⟩ | ⟨rfl, hstopped⟩
          · have free₂ : (rt₁.later d.delay).deadline = none := free₁
            obtain ⟨answer, finish, laps, ending, hrun, told⟩ :=
              ih (r.count (.delivered delivered failed)) free₂
            exact ⟨answer, finish, ⟨rt, .delivered delivered failed, rt₁⟩ :: laps, ending, hrun,
              told.next lap nofun (helapses.trans helapses₂)⟩
          · obtain ⟨e, hcancelled⟩ :=
              d.runOn_cancelled (r.count (.delivered delivered failed)) rt₂
            refine ⟨_, _, [⟨rt, _, rt₁⟩], .cancelled, hcancelled, rfl, ?_, ?_, nofun, ?_⟩
            · exact .stoppedPausing lap nofun hstopped (hpausing.logged e)
            · exact (helapses.trans helapses₂).logged e
            · exact fun _ => helapses.stoppedAt hstopped
    · obtain ⟨e, hcancelled⟩ := d.runOn_cancelled r rt₁
      exact ⟨_, _, [], .cancelled, hcancelled, rfl,
        .stoppedWorking hstopped (hinTime.logged e) hwhy, helapses.logged e, nofun,
        fun _ => hstopped⟩

/-! ## Instants -/

variable {d}

/-- Laps end before the run does, and in a run that might go on each of them is followed by
a pause. -/
theorem Timeline.instants {rt finish : Runtime (Postroom C)} {laps : List (Lap C)}
    {ending : RunEnd} (line : d.Timeline rt laps ending finish) :
    rt.elapsed ≤ finish.elapsed ∧ (∀ lap ∈ laps, lap.after.elapsed ≤ finish.elapsed)
      ∧ (ending = .unfinished → rt.elapsed + laps.length * d.delay ≤ finish.elapsed) := by
  induction line with
  | unfinished =>
    refine ⟨Nat.le_refl _, List.forall_mem_nil _, fun _ => ?_⟩
    rw [List.length_nil, Nat.zero_mul]
    exact Nat.le_refl _
  | @next lap laps ending finish completed delivered rest ih =>
    obtain ⟨hstart, hlaps, hunfinished⟩ := ih
    have hforward := completed.inTime.forward
    have hlater : (lap.after.later d.delay).elapsed = lap.after.elapsed + d.delay := rfl
    refine ⟨by omega, List.forall_mem_cons.2 ⟨by omega, hlaps⟩, fun h => ?_⟩
    have hrest := hunfinished h
    rw [List.length_cons, Nat.succ_mul]
    omega
  | @drained lap finish completed drained instant =>
    have hforward := completed.inTime.forward
    exact ⟨by omega, List.forall_mem_singleton.2 (Nat.le_of_eq instant.symm),
      RunEnd.noConfusion⟩
  | @stoppedPausing lap finish completed delivered stopped pausing =>
    have hforward := Nat.le_trans completed.inTime.forward pausing.forward
    exact ⟨hforward, List.forall_mem_singleton.2 pausing.forward, RunEnd.noConfusion⟩
  | stoppedWorking stopped working uncompleted =>
    exact ⟨working.forward, List.forall_mem_nil _, RunEnd.noConfusion⟩
  | timedOut overran =>
    have hdue := overran.due
    exact ⟨by omega, List.forall_mem_nil _, RunEnd.noConfusion⟩
  | exhausted ran inTime =>
    exact ⟨inTime.forward, List.forall_mem_nil _, RunEnd.noConfusion⟩

variable (d)

/-- A run is a line of laps, each within the time limit of a cycle and each but the last
followed by one pause, and it comes to one of its ends.  It never goes on beyond the
instant at which it is asked to stop; where it is cancelled, it is that instant, and the
totals are those of the laps before it.  As long as pauses take time, a request to stop
leaves it no way to go on for ever. -/
theorem run_keeps_time (fuel : Nat) (rt : Runtime (Postroom C)) (free : rt.deadline = none) :
    ∃ laps ending finish, Virtual.runOn (d.run fuel) rt
        = (.ok (d.answer (DispatchReport.tally ⟨0, 0, 0⟩ (laps.map Lap.outcome)) ending), finish)
      ∧ d.Timeline rt laps ending finish
      ∧ (∀ lap ∈ laps, lap.after.elapsed ≤ finish.elapsed)
      ∧ (ending = .cancelled → rt.StoppedAt finish)
      ∧ (ending = .unfinished → laps.length = fuel)
      ∧ ∀ i, rt.stopInstant? = some i → finish.elapsed ≤ max i rt.elapsed
        ∧ (rt.elapsed ≤ i → i < rt.elapsed + fuel * d.delay → ending ≠ .unfinished) := by
  obtain ⟨answer, finish, laps, ending, hrun, told⟩ := d.runFrom_timeline fuel ⟨0, 0, 0⟩ free
  obtain ⟨-, hlaps, hpauses⟩ := told.timeline.instants
  refine ⟨laps, ending, finish, ?_, told.timeline, hlaps, told.cancelled, told.unfinished, ?_⟩
  · rw [run, hrun, told.answer]
  · intro i hi
    have hbound := told.elapses.unstopped i hi
    refine ⟨hbound, fun hlate hsoon hunfinished => ?_⟩
    have hlong := hpauses hunfinished
    rw [told.unfinished hunfinished] at hlong
    omega

/-- A run that is stopped in the pause after its first cycle. -/
theorem run_keeps_time_moody :
    ∃ laps finish, Virtual.runOn ((ofConfig .default).run 3)
          { Runtime.new .counting Postroom.opened with stop := some ⟨600, true⟩ }
        = (.ok (some (.error (.mailing (.cancelled 1 2 1)))), finish)
      ∧ finish.elapsed = 600
      ∧ (ofConfig .default).Timeline
          { Runtime.new .counting Postroom.opened with stop := some ⟨600, true⟩ }
          laps .cancelled finish
      ∧ DispatchReport.tally ⟨0, 0, 0⟩ (laps.map Lap.outcome) = ⟨1, 2, 1⟩ := by
  obtain ⟨laps, ending, finish, hrun, htimeline, -⟩ :=
    run_keeps_time (ofConfig .default) 3
      { Runtime.new .counting Postroom.opened with stop := some ⟨600, true⟩ } rfl
  have hends : (Virtual.runOn ((ofConfig .default).run 3)
      { Runtime.new .counting Postroom.opened with stop := some ⟨600, true⟩ }).map failure?
        Runtime.elapsed = (some (.cancelled 1 2 1), 600) := by
    decide +kernel
  rw [hrun] at hends
  obtain ⟨hfailure, helapsed⟩ := Prod.mk.inj hends
  cases ending with
  | cancelled =>
    obtain ⟨hcycles, hdelivered, hfailed⟩ := MailingFailure.cancelled.inj (Option.some.inj hfailure)
    rw [of_failure? hfailure] at hrun
    refine ⟨laps, finish, hrun, helapsed, htimeline, ?_⟩
    rw [DispatchReport.mk.injEq]
    exact ⟨hcycles, hdelivered, hfailed⟩
  | _ => cases hfailure

example :
    (Virtual.runOn ((ofConfig .default).run 1)
      { Runtime.new .counting Postroom.opened with stop := some ⟨300, true⟩ }).map failure?
        Runtime.elapsed = (some (.cancelled 0 0 0), 300) := by
  decide +kernel

end Dispatcher

end Gatehouse
