/-
  Gatehouse/Mailer.lean --- the program that delivers the outbox.

  A run checks its configuration, opens the database, makes the tables if it is told
  to, drains the outbox and closes the database.  Being asked to stop is no failure:
  the run then ends with what it has delivered.  How a run ended is written to the log,
  and is the exit code.

  Main definitions: `Mailer.run`, `Mailer.program`.
-/
import Gatehouse.Config.App
import Gatehouse.MySql.Pool
import Gatehouse.MySql.Stores
import Gatehouse.Relay.Carrier

set_option autoImplicit false

namespace Gatehouse

namespace Mailer

/-- Why a run failed. -/
inductive Fault where
  | configuration (fault : ConfigFault)
  | connection (fault : AdapterFault)
  | migrations (fault : AdapterFault)
  | carrier (fault : AdapterFault)
  | delivery (failure : Failure)
  /-- There were more cycles than a report can count. -/
  | endless
  deriving Repr, Inhabited

namespace Fault

/-- What was being done, and then what went wrong down to its first cause. -/
def chain : Fault → List String
  | .configuration f => ["invalid configuration", f.message]
  | .connection f => "connect to database" :: f.chain
  | .migrations f => "run migrations" :: f.chain
  | .carrier f => "build mail relay transport" :: f.chain
  | .delivery e => "process" :: e.message :: e.causes.map Failure.message
  | .endless => ["process", "too many cycles"]

/-- The wording of a fault. -/
def message (f : Fault) : String := ": ".intercalate f.chain

end Fault

/-- How many cycles a run may have: as many as a report counts. -/
def maxCycles : Nat := 0x10000000000000000

variable {m : Type → Type} [Monad m] [MonadLog m] [MonadObserve m] [MonadPause m]
  [MonadDeadline m] [MonadShutdown m] [MonadDatabase m] [MonadRandom m] [MonadRelay m]

/-- Drains the outbox into a carrier.  A run that was asked to stop ends with its report. -/
def deliver (c : MailingConfig) (carrier : MailCarrier) : ExceptT Fault m DispatchReport :=
  ExceptT.mk do
    let act : ReaderT MailCarrier m (Option (Except Failure DispatchReport)) :=
      (Dispatcher.ofConfig c).run maxCycles
    match ← act.run carrier with
    | none => pure (.error .endless)
    | some (.ok report) => pure (.ok report)
    | some (.error (.mailing (.cancelled cycles delivered failed))) => do
        logInfo .mailer "Mailer interrupted" []
        pure (.ok { cycles, delivered, failed })
    | some (.error e) => pure (.error (.delivery e))

/-- One run.  The database is closed when delivering has ended, however it did. -/
def run (c : AppConfig) : ExceptT Fault m DispatchReport := do
  match c.validate with
  | .error f => throw (.configuration f)
  | .ok () => do
      ExceptT.lift (logInfo .mailer "Starting mailer"
        [("environment", .text c.environment.label)])
      (MySql.openPool c.database).adapt .connection
      if c.database.runMigrations then
        MySql.runMigrations.adapt .migrations
      match MailCarrier.ofConfig c.mailRelay with
      | .error f => throw (.carrier f)
      | .ok carrier => do
          let outcome ← ExceptT.lift (deliver c.mailing carrier).run
          ExceptT.lift MySql.closePool
          ExceptT.mk (pure outcome)

/-- The program: one run, whose end is logged.  Its value is the exit code. -/
def program (c : AppConfig) : m Nat := do
  match ← (run c).run with
  | .ok r => do
      logInfo .mailer "Mailer finished"
        [("cycles", .number r.cycles), ("delivered", .number r.delivered),
          ("failed", .number r.failed)]
      pure 0
  | .error f => do
      logError .mailer "mailing run error" [("error", .text f.message)]
      pure 1

end Mailer

end Gatehouse
