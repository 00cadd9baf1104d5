/-
  Gatehouse/Mailing/Outbox.lean --- queueing mails and draining the outbox.

  A mail is queued in the unit of work of the step that causes it.  The dispatcher
  drains the outbox in cycles: it fetches a batch, sends each mail, and saves the
  batch with the accepted mails marked.  A cycle is retried as a whole and has a
  deadline; the run ends when a fetch comes back empty, when a cycle fails for
  good, or when the program is asked to stop.  Delivery is at least once: a batch
  that was sent but not saved is fetched and sent again.

  Main definitions: `enqueueMail`, `Dispatcher.process`, `Dispatcher.run`.
-/
import Gatehouse.Account.Email
import Gatehouse.Config.Mailing
import Gatehouse.Entity
import Gatehouse.Retrier
import Gatehouse.UnitOfWork

set_option autoImplicit false

namespace Gatehouse

/-! ## Collaborators -/

/-- The side of the outbox that the dispatcher uses. -/
class Outbox (m : Type → Type) where
  /-- Up to so many mails that are not delivered. -/
  findPending : Nat → m (Except Failure (List Mail))
  /-- Keeps a batch: mails without an id are inserted, sent ones are marked. -/
  saveBatch : List Mail → m (Except Failure Unit)

/-- The side of the outbox that business steps use. -/
class MailQueue (m : Type → Type) (K : outParam UnitKinds) where
  enqueue : Mail → Step K m Unit

/-- Handing a mail to a relay. -/
class MailTransport (m : Type → Type) where
  send : (address subject body : String) → m (Except Failure Unit)

/-! ## Queueing -/

/-- Queues a mail in a business step. -/
def enqueueMail {m : Type → Type} [Monad m] [MonadLog m] {K : UnitKinds} [MailQueue m K]
    (mail : Mail) : Step K m Unit := do
  MailQueue.enqueue mail
  Step.lift (ExceptT.lift (logDebug .mailQueue "Mail queued"
    [("address", .text (Email.mask mail.address)), ("subject", .text mail.subject)]))

/-! ## Dispatching -/

/-- What a cycle did. -/
inductive CycleOutcome where
  /-- Nothing was pending. -/
  | drained
  /-- A batch was sent and saved. -/
  | delivered (delivered failed : Nat)
  deriving DecidableEq, Repr, Inhabited

/-- The totals of a run. -/
structure DispatchReport where
  cycles : Nat
  delivered : Nat
  failed : Nat
  deriving DecidableEq, Repr, Inhabited

/-- The pace of a dispatcher and its two retriers; times are in milliseconds. -/
structure Dispatcher where
  delay : Nat
  processTimeout : Nat
  batchSize : Nat
  processRetrier : Retrier
  saveRetrier : Retrier
  deriving DecidableEq, Repr, Inhabited

namespace Dispatcher

/-- The dispatcher of a configuration. -/
def ofConfig (c : MailingConfig) : Dispatcher :=
  { delay := c.delay
    processTimeout := c.processTimeout
    batchSize := c.batchSize
    processRetrier :=
      { operation := "process mails", maxRetries := c.processMaxRetries, delay := c.retryDelay }
    saveRetrier :=
      { operation := "save mails", maxRetries := c.saveMaxRetries, delay := c.retryDelay } }

section

variable {m : Type → Type} [Monad m] [MonadLog m] [MonadObserve m] [MonadPause m] [Outbox m]
  [MailTransport m]

omit [MonadLog m] [MonadPause m] [Outbox m] in
/-- Sends the mails of a batch in order and counts the accepted ones. -/
def deliver : List Mail → m (List Mail × Nat)
  | [] => pure ([], 0)
  | mail :: rest => do
      match ← MailTransport.send mail.address mail.subject mail.content with
      | .ok () => do
          let (others, count) ← deliver rest
          pure (mail.markMailed :: others, count + 1)
      | .error e => do
          observeError "mail error" e [("mail_id", mail.logId)]
          let (others, count) ← deliver rest
          pure (mail :: others, count)

/-- One attempt at a cycle: fetch, send, save. -/
def process (d : Dispatcher) : m (Except Failure CycleOutcome) := do
  match ← Outbox.findPending d.batchSize with
  | .error e => pure (.error e)
  | .ok [] => pure (.ok .drained)
  | .ok mails => do
      let (batch, count) ← deliver mails
      if count = 0 then pure (.error (.mailing (.allFailed mails.length)))
      else
        match ← d.saveRetrier.process (Outbox.saveBatch batch) with
        | .error e => pure (.error e)
        | .ok () => do
            let failed := mails.length - count
            logDebug .dispatcher "Mail batch processed"
              [("delivered", .number count), ("failed", .number failed)]
            pure (.ok (.delivered count failed))

variable [MonadDeadline m]

/-- One cycle: its attempts, bounded together by the deadline. -/
def cycle (d : Dispatcher) : m (Except Failure CycleOutcome) := do
  match ← within d.processTimeout (d.processRetrier.process d.process) with
  | some outcome => pure outcome
  | none => pure (.error (.mailing (.timeout d.processTimeout)))

variable [MonadShutdown m]

omit [MonadObserve m] [MonadPause m] [Outbox m] [MailTransport m] [MonadDeadline m]
  [MonadShutdown m] in
/-- The end of a run that was asked to stop. -/
def cancelled (r : DispatchReport) : m (Except Failure DispatchReport) := do
  logInfo .dispatcher "Outbox dispatch cancelled" [("cycles", .number r.cycles)]
  pure (.error (.mailing (.cancelled r.cycles r.delivered r.failed)))

/-- The cycles from a given report on, at most `fuel` of them; none when they were
not enough. -/
def runFrom (d : Dispatcher) : (fuel : Nat) → DispatchReport →
    m (Option (Except Failure DispatchReport))
  | 0, _ => pure none
  | fuel + 1, r => do
      match ← unlessStopped d.cycle with
      | none => some <$> cancelled r
      | some (.error e) => pure (some (.error e))
      | some (.ok .drained) => do
          let r := { r with cycles := r.cycles + 1 }
          logInfo .dispatcher "Outbox drained"
            [("cycles", .number r.cycles), ("delivered", .number r.delivered),
              ("failed", .number r.failed)]
          pure (some (.ok r))
      | some (.ok (.delivered delivered failed)) => do
          let r := { cycles := r.cycles + 1, delivered := r.delivered + delivered,
                     failed := r.failed + failed }
          match ← unlessStopped (pause d.delay) with
          | none => some <$> cancelled r
          | some () => runFrom d fuel r

/-- Drains the outbox, in at most `fuel` cycles. -/
def run (d : Dispatcher) (fuel : Nat) : m (Option (Except Failure DispatchReport)) :=
  d.runFrom fuel { cycles := 0, delivered := 0, failed := 0 }

end

end Dispatcher

end Gatehouse
