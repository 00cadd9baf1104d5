/-
  Gatehouse/Proofs/Running.lean --- what a computation in virtual time does.

  A computation in virtual time is a function of the state that it starts in.  The
  equations here say what each way of building computations does to that state, for
  computations that may be given up, for those that may also fail, and for pieces of
  a business step, which carry a unit of work beside.  A workflow is executed by
  rewriting with them, one collaborator at a time.

  Main definitions: `Runtime.logged`, `Runtime.drew`, `Runtime.Quiet`.
  Main statements: `Virtual.runOn_bind`, `Virtual.runOn_attempt_bind`,
  `Step.runOn_bind`, `UnitOfWork.runOn_perform`.
-/
import Gatehouse.Simulation.Runtime

set_option autoImplicit false

namespace Gatehouse

/-! ## States -/

namespace Runtime

variable {σ : Type}

/-- The state after an event was written to the log. -/
def logged (rt : Runtime σ) (e : LogEvent) : Runtime σ := { rt with events := rt.events ++ [e] }

/-- The state after an id, a token or some bytes were drawn. -/
def drew (rt : Runtime σ) : Runtime σ :=
  { rt with entropy := { rt.entropy with drawn := rt.entropy.drawn + 1 } }

@[simp] theorem drew_tokenAt (rt : Runtime σ) :
    rt.drew.entropy.tokenAt = rt.entropy.tokenAt := rfl

@[simp] theorem drew_drawn (rt : Runtime σ) :
    rt.drew.entropy.drawn = rt.entropy.drawn + 1 := rfl

/-- Whether at most the log and the draws are different. -/
structure Quiet (rt rt' : Runtime σ) : Prop where
  world : rt'.world = rt.world
  clock : rt'.clock = rt.clock
  observer : rt'.observer = rt.observer
  observed : rt'.observed = rt.observed

end Runtime

/-- A source of ids and tokens that counts. -/
def Entropy.counting : Entropy where
  idAt n := ⟨BitVec.ofNat 128 n⟩
  tokenAt n := String.ofList (List.replicate n 'a')
  byteAt _ _ := 0
  drawn := 0

/-- A result is told from what it gives. -/
theorem ok_of_toOption {ε δ α : Type} {result : Except ε (Except δ α)} {a : α}
    (h : result.toOption.bind Except.toOption = some a) : result = .ok (.ok a) := by
  rcases result with _ | _ | b
  · cases h
  · cases h
  · cases h
    rfl

/-! ## Computations -/

namespace Virtual

variable {σ α β : Type} (rt : Runtime σ)

theorem runOn_bind (x : Virtual σ α) (f : α → Virtual σ β) :
    (x >>= f).runOn rt = match x.runOn rt with
      | (.ok a, rt₁) => (f a).runOn rt₁
      | (.error c, rt₁) => (.error c, rt₁) := by
  simp only [runOn, ExceptT.run_bind, StateT.run_bind]
  rcases StateT.run (m := Id) x.run rt with ⟨_ | a, rt₁⟩ <;> rfl

theorem runOn_map (x : Virtual σ α) (f : α → β) :
    (f <$> x).runOn rt = match x.runOn rt with
      | (.ok a, rt₁) => (.ok (f a), rt₁)
      | (.error c, rt₁) => (.error c, rt₁) := by
  rw [← bind_pure_comp, runOn_bind]
  rfl

theorem runOn_world : (world : Virtual σ σ).runOn rt = (.ok rt.world, rt) := rfl

theorem runOn_log (e : LogEvent) : (log e : Virtual σ Unit).runOn rt = (.ok (), rt.logged e) := rfl

/-- An observation is kept where observations are kept. -/
theorem runOn_observe (o : Observation) (records : rt.observer = .record) :
    (observe o : Virtual σ Unit).runOn rt
      = (.ok (), { rt with observed := rt.observed ++ [o] }) := by
  cases rt
  cases records
  rfl

theorem runOn_freshId :
    (freshId : Virtual σ Uuid).runOn rt = (.ok (rt.entropy.idAt rt.entropy.drawn), rt.drew) := rfl

theorem runOn_now : (now : Virtual σ Instant).runOn rt = (.ok rt.clock, rt) := rfl

/-! ## Computations that may fail -/

variable {ε : Type}

theorem runOn_attempt_pure (a : α) :
    (pure a : ExceptT ε (Virtual σ) α).run.runOn rt = (.ok (.ok a), rt) := rfl

theorem runOn_attempt_bind (x : ExceptT ε (Virtual σ) α)
    (f : α → ExceptT ε (Virtual σ) β) :
    (x >>= f).run.runOn rt = match x.run.runOn rt with
      | (.ok (.ok a), rt₁) => (f a).run.runOn rt₁
      | (.ok (.error e), rt₁) => (.ok (.error e), rt₁)
      | (.error c, rt₁) => (.error c, rt₁) := by
  simp only [ExceptT.run_bind, runOn_bind]
  rcases x.run.runOn rt with ⟨_ | _ | a, rt₁⟩ <;> rfl

theorem runOn_attempt_lift (x : Virtual σ α) :
    (ExceptT.lift x : ExceptT ε (Virtual σ) α).run.runOn rt = match x.runOn rt with
      | (.ok a, rt₁) => (.ok (.ok a), rt₁)
      | (.error c, rt₁) => (.error c, rt₁) := by
  rw [ExceptT.run_lift, runOn_map]

end Virtual

/-! ## Pieces of a step -/

namespace Step

variable {σ α β : Type} {K : UnitKinds} (u : UnitOfWork K) (rt : Runtime σ)

theorem runOn_bind (x : Step K (Virtual σ) α) (f : α → Step K (Virtual σ) β) :
    ((x >>= f).runOn u).runOn rt = match (x.runOn u).runOn rt with
      | (.ok (.ok a, u₁), rt₁) => ((f a).runOn u₁).runOn rt₁
      | (.ok (.error e, u₁), rt₁) => (.ok (.error e, u₁), rt₁)
      | (.error c, rt₁) => (.error c, rt₁) := by
  simp only [Step.runOn, ExceptT.run_bind, StateT.run_bind, Virtual.runOn_bind]
  rcases Virtual.runOn (StateT.run x.run u) rt with ⟨_ | ⟨_ | a, u₁⟩, rt₁⟩ <;> rfl

/-- What does not touch the unit of work leaves it as it is. -/
theorem runOn_lift (x : ExceptT Failure (Virtual σ) α) :
    ((Step.lift x : Step K (Virtual σ) α).runOn u).runOn rt = match x.run.runOn rt with
      | (.ok r, rt₁) => (.ok (r, u), rt₁)
      | (.error c, rt₁) => (.error c, rt₁) := by
  simp only [Step.runOn, Step.lift, ExceptT.run_mk, StateT.run_lift, Virtual.runOn_bind]
  rcases x.run.runOn rt with ⟨_ | a, rt₁⟩ <;> rfl

/-- A result that needs no collaborator. -/
theorem runOn_result (r : Except Failure α) :
    (Step.runOn (ExceptT.mk (pure r) : Step K (Virtual σ) α) u).runOn rt = (.ok (r, u), rt) := rfl

end Step

/-! ## Units of work -/

namespace UnitOfWork

variable {σ α : Type} {K : UnitKinds} (rt : Runtime σ)

/-- The id of the unit of work that is opened next. -/
def nextId (rt : Runtime σ) : Uuid := rt.entropy.idAt rt.entropy.drawn

/-- The state after a unit of work was opened. -/
def opened (rt : Runtime σ) : Runtime σ :=
  rt.drew.logged
    { level := .debug, source := .unitOfWork, message := "unit of work opened", fields := [] }

theorem runOn_start :
    (start : Virtual σ (UnitOfWork K)).runOn rt = (.ok (empty K (nextId rt)), opened rt) := rfl

variable [UnitActions (Virtual σ) K]

/-- A step in a unit of work of its own starts from an empty one and settles what it
made of it. -/
theorem runOn_perform (step : Step K (Virtual σ) α) :
    (perform step).run.runOn rt
      = match (step.runOn (empty K (nextId rt))).runOn (opened rt) with
        | (.ok (r, u), rt₁) => Virtual.runOn (u.settle r) rt₁
        | (.error c, rt₁) => (.error c, rt₁) := by
  simp only [perform, ExceptT.run_mk, Virtual.runOn_bind, runOn_start]
  rcases (step.runOn (empty K (nextId rt))).runOn (opened rt) with ⟨_ | ⟨r, u⟩, rt₁⟩ <;> rfl

end UnitOfWork

end Gatehouse
