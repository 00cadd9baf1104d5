/-
  Gatehouse/Simulation/PlayedDatabase.lean --- a database that follows a plan.

  The database knows no data.  It records every statement, and answers it as the
  plan says, or in the usual way of a database without rows.  A connection is inside
  a transaction from a BEGIN that succeeded to a COMMIT or ROLLBACK that succeeded.

  Main definitions: `PlayedDatabase`, `PlayedDatabase.answer`.
-/
import Gatehouse.MySql.Transaction
import Gatehouse.Simulation.Runtime

set_option autoImplicit false

namespace Gatehouse

/-- How a statement is to be answered. -/
inductive PlannedReply where
  /-- In the usual way. -/
  | usual
  | affected (count : Nat)
  /-- Rows, for the statement's own columns when no others are named. -/
  | rows (columns : Option (List String)) (values : List (List MySql.Value))
  | failed (error : MySql.DatabaseError)
  deriving DecidableEq, Repr, Inhabited

/-- A statement that was received. -/
structure ReceivedStatement where
  /-- Whether its connection was inside a transaction. -/
  inTransaction : Bool
  statement : MySql.Statement
  deriving DecidableEq, Repr, Inhabited

/-- The played database. -/
structure PlayedDatabase where
  /-- Why logging in fails, if it does. -/
  refusal : Option MySql.Fault
  /-- The answers to the statements to come; the usual ones when it is over. -/
  plan : List PlannedReply
  /-- What was received, the last first. -/
  received : List ReceivedStatement
  /-- How many connections were made. -/
  connections : Nat
  /-- The connections inside a transaction. -/
  inside : List Connection
  deriving DecidableEq, Repr, Inhabited

namespace PlayedDatabase

/-- A database that has received nothing. -/
def new (plan : List PlannedReply) : PlayedDatabase :=
  { refusal := none, plan, received := [], connections := 0, inside := [] }

/-- The usual answer to a statement. -/
def usualReply (s : MySql.Statement) : MySql.Reply :=
  match s with
  | .emailTaken _ => .rows (MySql.rowsOf s.columns [[.number 0]])
  | .ping => .rows (MySql.rowsOf s.columns [[.number 1]])
  | .userById _ | .userByEmail _ | .findCredential _ _ | .pendingMails _ => .rows []
  | _ => .done 1

/-- The answer to a statement by plan. -/
def PlannedReply.toReply (s : MySql.Statement) : PlannedReply → MySql.Reply
  | .usual => usualReply s
  | .affected n => .done n
  | .rows columns values => .rows (MySql.rowsOf (columns.getD s.columns) values)
  | .failed e => .failed e

/-- The connections inside a transaction after a statement that succeeded. -/
def insideAfter (c : Connection) (s : MySql.Statement) (inside : List Connection) :
    List Connection :=
  match s with
  | .beginTransaction => c :: inside
  | .commitTransaction | .rollbackTransaction => inside.filter fun d => d ≠ c
  | _ => inside

/-- Receives a statement on a connection and answers it. -/
def answer (c : Connection) (s : MySql.Statement) (db : PlayedDatabase) :
    MySql.Reply × PlayedDatabase :=
  let reply := PlannedReply.toReply s (db.plan.headD .usual)
  (reply,
    { refusal := db.refusal
      plan := db.plan.drop 1
      received := { inTransaction := db.inside.contains c, statement := s } :: db.received
      connections := db.connections
      inside := if reply.hasFailed then db.inside else insideAfter c s db.inside })

instance : MonadDatabase (Virtual PlayedDatabase) where
  login _ := do
    match (← Virtual.world).refusal with
    | none => pure (.ok ())
    | some f => pure (.error f)
  connect := modifyGet fun rt =>
    (.ok ⟨rt.world.connections⟩,
      { rt with world := { rt.world with connections := rt.world.connections + 1 } })
  send c s := modifyGet fun rt =>
    let (reply, db) := rt.world.answer c s
    (reply, { rt with world := db })

end PlayedDatabase

end Gatehouse
