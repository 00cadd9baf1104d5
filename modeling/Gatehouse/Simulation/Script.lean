/-
  Gatehouse/Simulation/Script.lean --- operations and transactions that follow a script.

  A scripted operation takes its results one after another from a list, and keeps
  to the last one when the list is over.  A scripted unit of work holds named
  transactions and actions; what ran is kept in order.

  Main definitions: `Script.attempt`, `ScriptedUnit`.
-/
import Gatehouse.Simulation.Runtime

set_option autoImplicit false

namespace Gatehouse

/-! ## Scripted operations -/

/-- A result, and how long it takes to come, in milliseconds. -/
structure ScriptedResult (α : Type) where
  delay : Nat
  result : Except Failure α

/-- The results to come, and when each attempt was made, the last first. -/
structure Script (α : Type) where
  ahead : List (ScriptedResult α)
  calledAt : List Nat

namespace Script

variable {α : Type}

/-- The script after its next result; the last result stays. -/
def advance : List (ScriptedResult α) → List (ScriptedResult α)
  | [] => []
  | [r] => [r]
  | _ :: rest => rest

/-- One attempt: takes its time, then has the next result.  A script without results
fails. -/
def attempt : Virtual (Script α) (Except Failure α) := do
  let rt ← get
  Virtual.modifyWorld fun w =>
    { ahead := advance w.ahead, calledAt := rt.elapsed :: w.calledAt }
  match rt.world.ahead with
  | [] => pure (.error (.internal "script is empty"))
  | r :: _ => do
      pause r.delay
      pure r.result

end Script

/-! ## Scripted units of work -/

/-- What ran when a unit of work ended. -/
inductive ScriptedEvent where
  | commitHandle (name : String) (statements : List String)
  | rollbackHandle (name : String) (statements : List String)
  | undo (name : String)
  | finish (name : String)
  deriving DecidableEq, Repr, Inhabited

namespace ScriptedUnit

/-- A transaction of one of several kinds. -/
structure Handle where
  name : String
  kind : String
  statements : List String
  commitFailure : Option Failure
  rollbackFailure : Option Failure
  deriving Repr, Inhabited

/-- An undo action, and how long it takes. -/
structure Undo where
  name : String
  delay : Nat
  deriving DecidableEq, Repr, Inhabited

/-- A finishing action, how long it takes, and how it fails. -/
structure Finish where
  name : String
  delay : Nat
  failure : Option Failure
  deriving Repr, Inhabited

/-- What a scripted unit of work holds. -/
abbrev Kinds : UnitKinds := { Handle, Undo, Finish }

/-- A run of scripted units of work; what ran is kept with the last first. -/
abbrev Run := Virtual (List ScriptedEvent)

/-- A failure as a result. -/
def outcome : Option Failure → Except Failure Unit
  | none => .ok ()
  | some e => .error e

/-- Keeps what ran. -/
def note (e : ScriptedEvent) : Run Unit := Virtual.modifyWorld fun ran => e :: ran

instance : UnitActions Run Kinds where
  commitHandle h := do
    note (.commitHandle h.name h.statements)
    pure (outcome h.commitFailure)
  rollbackHandle h := do
    note (.rollbackHandle h.name h.statements)
    pure (outcome h.rollbackFailure)
  runUndo a := do
    pause a.delay
    note (.undo a.name)
  runFinish a := do
    pause a.delay
    note (.finish a.name)
    pure (outcome a.failure)

/-- The unit of work with a statement in its transaction, if that has the given kind;
none when there is no such transaction. -/
def addStatement? (u : UnitOfWork Kinds) (kind : String) (statement : Option String) :
    Option (Handle × UnitOfWork Kinds) :=
  match u.handle with
  | none => none
  | some h =>
      if h.kind == kind then
        let h := match statement with
          | some s => { h with statements := h.statements ++ [s] }
          | none => h
        some (h, { u with handle := some h })
      else none

end ScriptedUnit

end Gatehouse
