/-
  Gatehouse/UnitOfWork.lean --- the writes of one business step.

  A unit of work holds at most one store transaction, the actions that undo what
  was done, and the actions that finish it.  It ends once: by `commit`, which
  commits the transaction and runs every finishing action, or by `rollback`, which
  discards the transaction and runs every undo action, each in the order in which
  they were registered and whatever fails on the way.  Either takes out what it ends
  and lets go of the rest.

  What a transaction and an action are is left open (`UnitKinds`); how they run is
  an ability of the monad (`UnitActions`).  A step that writes runs on the unit of
  work as its state (`Step`), so that what it registered is kept when it fails.

  Main definitions: `UnitOfWork`, `UnitOfWork.commit`, `UnitOfWork.rollback`.
-/
import Gatehouse.Effect

set_option autoImplicit false

namespace Gatehouse

/-- The kinds of things that a unit of work holds. -/
structure UnitKinds where
  /-- An open store transaction. -/
  Handle : Type
  /-- An action that undoes something. -/
  Undo : Type
  /-- An action that finishes something. -/
  Finish : Type

/-- How transactions end and actions run. -/
class UnitActions (m : Type → Type) (K : outParam UnitKinds) where
  commitHandle : K.Handle → m (Except Failure Unit)
  rollbackHandle : K.Handle → m (Except Failure Unit)
  runUndo : K.Undo → m Unit
  runFinish : K.Finish → m (Except Failure Unit)

/-- The transaction and actions of one business step. -/
structure UnitOfWork (K : UnitKinds) where
  correlationId : Uuid
  handle : Option K.Handle
  undos : List K.Undo
  finishers : List K.Finish

/-- A piece of a business step: it may register actions and may fail. -/
abbrev Step (K : UnitKinds) (m : Type → Type) (α : Type) :=
  ExceptT Failure (StateT (UnitOfWork K) m) α

namespace Step

variable {K : UnitKinds} {m : Type → Type} [Monad m] {α : Type}

/-- Something that does not touch the unit of work. -/
def lift (act : ExceptT Failure m α) : Step K m α := ExceptT.mk (StateT.lift act.run)

/-- Runs a piece of a step on a unit of work. -/
def runOn (step : Step K m α) (u : UnitOfWork K) : m (Except Failure α × UnitOfWork K) :=
  StateT.run step.run u

end Step

namespace UnitOfWork

variable {K : UnitKinds}

/-- A unit of work with nothing in it. -/
def empty (K : UnitKinds) (id : Uuid) : UnitOfWork K :=
  { correlationId := id, handle := none, undos := [], finishers := [] }

/-- Registers an action that undoes something. -/
def addUndo (u : UnitOfWork K) (a : K.Undo) : UnitOfWork K := { u with undos := u.undos ++ [a] }

/-- Registers an action that finishes something. -/
def addFinish (u : UnitOfWork K) (a : K.Finish) : UnitOfWork K :=
  { u with finishers := u.finishers ++ [a] }

/-- Whether a transaction is installed. -/
def hasHandle (u : UnitOfWork K) : Bool := u.handle.isSome

/-- Whether nothing waits to be ended. -/
def isIdle (u : UnitOfWork K) : Bool :=
  u.handle.isNone && u.undos.isEmpty && u.finishers.isEmpty

/-- What is left of a unit of work when its transaction and its actions were taken out. -/
def spent (u : UnitOfWork K) : UnitOfWork K :=
  { u with handle := none, undos := [], finishers := [] }

/-- The failure of installing a second transaction. -/
def secondHandle : Failure := .internal "unit of work already holds a transaction handle"

/-- Installs a transaction; a second one is refused. -/
def install (u : UnitOfWork K) (h : K.Handle) : Except Failure (UnitOfWork K) :=
  match u.handle with
  | some _ => .error secondHandle
  | none => .ok { u with handle := some h }

section

variable {m : Type → Type} [Monad m] [MonadLog m]

/-- Opens a unit of work. -/
def start [MonadRandom m] : m (UnitOfWork K) := do
  let id ← freshId
  logDebug .unitOfWork "unit of work opened" []
  pure (empty K id)

variable [UnitActions m K]

/-- Runs finishing actions in order and collects their failures. -/
def finishAll : List K.Finish → m (List Failure)
  | [] => pure []
  | a :: rest => do
      let outcome ← UnitActions.runFinish a
      let failures ← finishAll rest
      match outcome with
      | .ok () => pure failures
      | .error e => pure (e :: failures)

/-- Runs undo actions in order. -/
def undoAll : List K.Undo → m Unit
  | [] => pure ()
  | a :: rest => do
      UnitActions.runUndo a
      undoAll rest

omit [UnitActions m K] in
/-- Lets go of a unit of work, which is logged when something in it still waited to be
ended. -/
def drop (u : UnitOfWork K) : m Unit :=
  if u.isIdle then pure ()
  else logWarn .unitOfWork "unit of work dropped without commit or rollback" []

/-- Commits the transaction, if any, and runs every finishing action.  A failure
stops nothing; all of them are collected. -/
def commit (u : UnitOfWork K) : m (Except Failure Unit) := do
  let first ← match u.handle with
    | none => pure []
    | some h => do
        match ← UnitActions.commitHandle h with
        | .ok () => pure []
        | .error e => pure [e]
  let failures := first ++ (← finishAll u.finishers)
  if failures.isEmpty then
    logDebug .unitOfWork "unit of work committed" []
    u.spent.drop
    pure (.ok ())
  else
    u.spent.drop
    pure (.error (.commit failures))

/-- Discards the transaction, if any, and runs every undo action.  A transaction
that cannot be discarded is only logged. -/
def rollback (u : UnitOfWork K) : m Unit := do
  match u.handle with
  | none => pure ()
  | some h => do
      match ← UnitActions.rollbackHandle h with
      | .ok () => pure ()
      | .error e =>
          logWarn .unitOfWork "Failed to roll back store transaction" [("error", .text e.message)]
  undoAll u.undos
  logDebug .unitOfWork "unit of work rolled back" []
  u.spent.drop

/-- Ends a unit of work by the outcome of its step: commit on success, rollback on
failure.  A failure that is not the caller's is logged as a warning. -/
def settle {α : Type} (u : UnitOfWork K) (outcome : Except Failure α) :
    m (Except Failure α) := do
  match outcome with
  | .ok value =>
      match ← u.commit with
      | .ok () => pure (.ok value)
      | .error e => pure (.error e)
  | .error e => do
      if e.isClientError then
        logDebug .accounts "Rolling back" [("error", .text e.message)]
      else
        logWarn .accounts "Rolling back after failure" [("error", .text e.message)]
      u.rollback
      pure (.error e)

/-- Runs a step in a unit of work of its own. -/
def perform [MonadRandom m] {α : Type} (step : Step K m α) : ExceptT Failure m α :=
  ExceptT.mk do
    let u ← start
    let (outcome, u) ← step.runOn u
    u.settle outcome

end

end UnitOfWork

end Gatehouse
