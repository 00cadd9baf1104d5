/-
  Gatehouse/MySql/Transaction.lean --- transactions and the unit of work.

  Statements are sent on connections that are taken from a pool.  The first write of
  a unit of work opens a transaction on a connection of its own, and all its writes
  go there.  A transaction that is let go without having ended is rolled back before
  its connection is used again; that also holds when its end was tried and failed.

  Main definitions: `MonadDatabase`, `MySql.transaction`, `MySql.inTransaction`.
-/
import Gatehouse.MySql.Options
import Gatehouse.MySql.Row

set_option autoImplicit false

namespace Gatehouse

/-- A connection to the database, by number. -/
structure Connection where
  number : Nat
  deriving DecidableEq, Repr, Inhabited

/-- Talking to the database. -/
class MonadDatabase (m : Type → Type) where
  /-- Makes the first connection. -/
  login : MySql.ConnectOptions → m (Except MySql.Fault Unit)
  /-- Takes a connection from the pool, which may have none to give in time. -/
  connect : m (Except MySql.Fault Connection)
  /-- Sends a statement on a connection. -/
  send : Connection → MySql.Statement → m MySql.Reply

instance {ρ : Type} {m : Type → Type} [MonadDatabase m] : MonadDatabase (ReaderT ρ m) where
  login options := fun _ => MonadDatabase.login options
  connect := fun _ => MonadDatabase.connect
  send c s := fun _ => MonadDatabase.send c s

namespace MySql

/-- What a unit of work may hold as its transaction: one of this database, or one of
another store. -/
inductive Handle where
  | transaction (connection : Connection)
  | foreign
  deriving DecidableEq, Repr, Inhabited

/-- What a unit of work on the database holds; the database itself undoes what was
written. -/
abbrev Kinds : UnitKinds := { Handle, Undo := Empty, Finish := Empty }

variable {m : Type → Type} [Monad m] [MonadDatabase m]

/-- Sends a statement outside any transaction. -/
def sendToPool (s : Statement) : m (Except Fault Reply) := do
  match ← MonadDatabase.connect with
  | .error f => pure (.error f)
  | .ok c => do
      let reply ← MonadDatabase.send c s
      pure (.ok reply)

/-- Sends a statement whose rows do not matter. -/
def execute (c : Connection) (s : Statement) : m (Except DatabaseError Nat) := do
  let reply ← MonadDatabase.send c s
  pure reply.affectedOr

/-- Opens a transaction; nothing is sent when the pool has no connection to give. -/
def openTransaction : m (Except Fault Connection) := do
  match ← MonadDatabase.connect with
  | .error f => pure (.error f)
  | .ok c => do
      match ← execute c .beginTransaction with
      | .ok _ => pure (.ok c)
      | .error e => pure (.error (.returned e))

/-- Lets go of a transaction that has not ended. -/
def abandon (c : Connection) : m Unit := do
  let _ ← MonadDatabase.send c .rollbackTransaction

/-- Ends a transaction by a statement; when that fails the transaction is let go. -/
def finish (c : Connection) (s : Statement) : m (Except DatabaseError Unit) := do
  match ← execute c s with
  | .ok _ => pure (.ok ())
  | .error e => do
      abandon c
      pure (.error e)

/-- The failure of an operation that came to a fault of the database. -/
def failedBy (action : String) (f : Fault) : Failure :=
  .internal ("Failed to " ++ action ++ ": " ++ f.message)

/-- The failure of an operation for which the database returned an error. -/
def failedTo (action : String) (e : DatabaseError) : Failure := failedBy action (.returned e)

instance : UnitActions m Kinds where
  commitHandle h :=
    match h with
    | .transaction c => do
        let r ← finish c .commitTransaction
        pure (r.mapError (failedTo "commit transaction"))
    | .foreign => pure (.ok ())
  rollbackHandle h :=
    match h with
    | .transaction c => do
        let r ← finish c .rollbackTransaction
        pure (r.mapError (failedTo "roll back transaction"))
    | .foreign => pure (.ok ())
  runUndo a := nomatch a
  runFinish a := nomatch a

/-- Lets go of a unit of work without ending it. -/
def dropUnit [MonadLog m] (u : UnitOfWork Kinds) : m Unit := do
  u.drop
  match u.handle with
  | some (.transaction c) => abandon c
  | _ => pure ()

/-- The connection of the unit of work's transaction, which is opened first if there
is none. -/
def transaction [MonadLog m] : Step Kinds m Connection := do
  let u ← get
  match u.handle with
  | some (.transaction c) => pure c
  | some .foreign => throw (.internal "Unit of work holds a non-MySQL transaction")
  | none => do
      match ← Step.lift (ExceptT.lift openTransaction) with
      | .error f => throw (failedBy "begin transaction" f)
      | .ok c => do
          Step.lift (ExceptT.lift (logDebug .transaction "MySQL transaction started" []))
          set { u with handle := some (Handle.transaction c) }
          pure c

/-- Sends a write in the unit of work's transaction. -/
def write [MonadLog m] (action : String) (s : Statement) : Step Kinds m Nat := do
  let c ← transaction
  match ← Step.lift (ExceptT.lift (execute c s)) with
  | .ok n => pure n
  | .error e => throw (failedTo action e)

end MySql

end Gatehouse
