/-
  Gatehouse/Retrier.lean --- trying again after a failure.

  An operation is run until it succeeds or its budget of retries is spent.  Every
  failed attempt is reported; between two attempts there is a fixed pause.

  Main definitions: `Retrier`, `Retrier.process`.
-/
import Gatehouse.Effect

set_option autoImplicit false

namespace Gatehouse

/-- How an operation is tried again. -/
structure Retrier where
  /-- The name of the operation in reports. -/
  operation : String
  /-- How many attempts may follow the first. -/
  maxRetries : Nat
  /-- The pause between two attempts, in milliseconds. -/
  delay : Nat
  deriving DecidableEq, Repr, Inhabited

namespace Retrier

variable {m : Type → Type} [Monad m] [MonadObserve m] [MonadPause m] {α : Type}

/-- The attempts from number `attempt` on, of which `left` may follow it. -/
def attempts (r : Retrier) (op : m (Except Failure α)) :
    (left attempt : Nat) → m (Except Failure α)
  | left, attempt => do
      match ← op with
      | .ok value => pure (.ok value)
      | .error e => do
          observeWarning "process failed in retrier" e
            [("operation", r.operation), ("attempt", toString attempt)]
          match left with
          | 0 => pure (.error (.retriesExhausted attempt e))
          | left + 1 => do
              pause r.delay
              attempts r op left (attempt + 1)

/-- Runs an operation until it succeeds or the retries are spent. -/
def process (r : Retrier) (op : m (Except Failure α)) : m (Except Failure α) :=
  r.attempts op r.maxRetries 1

end Retrier

end Gatehouse
