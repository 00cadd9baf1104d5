/-
  Gatehouse/Store/Collaborators.lean --- workflows on stores kept in memory.

  Any monad that keeps a `Memory` as a state and draws fresh ids offers the user,
  credential and mail stores.  Each call is one access to that state.  There are no
  transactions: a write is undone by what it registered.
-/
import Gatehouse.Store.Memory

set_option autoImplicit false

namespace Gatehouse

namespace Memory

/-- What a unit of work on the stores holds: neither a transaction nor a finishing
action, only how its writes are undone. -/
abbrev Kinds : UnitKinds := { Handle := Empty, Undo := Undo, Finish := Empty }

section

variable {m : Type → Type} [Monad m] [MonadStateOf Memory m] {α : Type}

/-- Reads the stores. -/
def read (act : Memory → Except Failure α) : ExceptT Failure m α :=
  ExceptT.mk do return act (← getThe Memory)

/-- Writes to the stores; a write that fails changes nothing and registers nothing. -/
def write (act : Memory → Except Failure (Written α)) : Step Kinds m α := do
  let (value, undo) ← Step.lift (ExceptT.mk (modifyGetThe Memory fun s =>
    match act s with
    | .ok w => (.ok (w.value, w.undo), w.memory)
    | .error e => (.error e, s)))
  match undo with
  | some a => do
      modify fun u => u.addUndo a
      pure value
  | none => pure value

end

end Memory

section

variable {m : Type → Type} [Monad m] [MonadStateOf Memory m]

instance : UnitActions m Memory.Kinds where
  commitHandle h := nomatch h
  rollbackHandle h := nomatch h
  runUndo a := modifyThe Memory fun s => s.undo a
  runFinish a := nomatch a

instance : CredentialStore m Memory.Kinds where
  find kind token := Memory.read fun s => .ok (s.findCredential kind token)
  save kind c := Memory.write fun s => s.saveCredential kind c
  delete kind token := Memory.write fun s => s.deleteCredential kind token

variable [MonadRandom m]

instance : UserStore m Memory.Kinds where
  existsByEmail email := Memory.read fun s => s.existsByEmail email
  findById id := Memory.read fun s => s.findById id
  findByEmail email := Memory.read fun s => s.findByEmail email
  save u := do
    let fresh ← Step.lift (ExceptT.lift freshId)
    Memory.write fun s => s.saveUser fresh u
  activate id := Memory.write fun s => s.activateUser id

instance : MailQueue m Memory.Kinds where
  enqueue mail := do
    let fresh ← Step.lift (ExceptT.lift freshId)
    Memory.write fun s => s.enqueue fresh mail

instance : Outbox m where
  findPending limit := do
    let batch ← modifyGetThe Memory fun s => s.fetch limit
    pure (.ok batch)
  saveBatch batch := do
    let fresh ← batch.mapM fun _ => freshId
    modifyGetThe Memory fun s => s.saveBatch fresh batch

end

end Gatehouse
