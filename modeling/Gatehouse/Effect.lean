/-
  Gatehouse/Effect.lean --- what the workflows need from their surroundings.

  A workflow is written once, for any monad that offers the abilities it uses:
  writing to the log, reporting failures, waiting, drawing fresh ids.  What the
  abilities do is up to the monad, so the same workflow runs against stores kept
  in memory, against a database, and against collaborators of which nothing is
  known.

  Main definitions: the classes `MonadLog`, `MonadObserve`, `MonadPause`,
  `MonadDeadline`, `MonadShutdown`, `MonadClock`, `MonadRandom`, `MonadHalt`.
-/
import Gatehouse.Instant
import Gatehouse.Log
import Gatehouse.Uuid

set_option autoImplicit false

namespace Gatehouse

/-- Writing to the log. -/
class MonadLog (m : Type → Type) where
  log : LogEvent → m Unit

/-- Reporting failures that do not stop their finder. -/
class MonadObserve (m : Type → Type) where
  observe : Observation → m Unit

/-- Waiting for some milliseconds. -/
class MonadPause (m : Type → Type) where
  pause : Nat → m Unit

/-- Running something for at most some milliseconds; none when it has not ended
by then. -/
class MonadDeadline (m : Type → Type) where
  within : {α : Type} → Nat → m α → m (Option α)

/-- Running something until the program is asked to stop; none when that comes
first. -/
class MonadShutdown (m : Type → Type) where
  unlessStopped : {α : Type} → m α → m (Option α)

/-- Reading the clock. -/
class MonadClock (m : Type → Type) where
  now : m Instant

/-- Drawing fresh ids, credential tokens and bytes. -/
class MonadRandom (m : Type → Type) where
  freshId : m Uuid
  freshToken : m String
  freshBytes : (n : Nat) → m (Vector UInt8 n)

/-- Giving up for good: a sum of time that does not exist. -/
class MonadHalt (m : Type → Type) where
  halt : {α : Type} → m α

export MonadLog (log)
export MonadObserve (observe)
export MonadPause (pause)
export MonadDeadline (within)
export MonadShutdown (unlessStopped)
export MonadClock (now)
export MonadRandom (freshId freshToken freshBytes)
export MonadHalt (halt)

section

variable {m : Type → Type} [MonadLog m]

/-- Writes a detail to the log. -/
def logDebug (source : LogSource) (message : String) (fields : List (String × LogValue)) :
    m Unit :=
  log { level := .debug, source, message, fields }

/-- Writes a step of the program to the log. -/
def logInfo (source : LogSource) (message : String) (fields : List (String × LogValue)) :
    m Unit :=
  log { level := .info, source, message, fields }

/-- Writes a warning to the log. -/
def logWarn (source : LogSource) (message : String) (fields : List (String × LogValue)) :
    m Unit :=
  log { level := .warn, source, message, fields }

/-- Writes an error to the log. -/
def logError (source : LogSource) (message : String) (fields : List (String × LogValue)) :
    m Unit :=
  log { level := .error, source, message, fields }

end

section

variable {m : Type → Type} [MonadObserve m]

/-- Reports a failure that was tolerated. -/
def observeWarning (event : String) (failure : Failure) (fields : List (String × String)) :
    m Unit :=
  observe { isError := false, event, failure, fields }

/-- Reports a failure that was given up on. -/
def observeError (event : String) (failure : Failure) (fields : List (String × String)) :
    m Unit :=
  observe { isError := true, event, failure, fields }

end

/-! ## Surroundings with something to read

What a monad offers, it still offers when there is something to read beside it. -/

section

variable {ρ : Type} {m : Type → Type}

instance [MonadLog m] : MonadLog (ReaderT ρ m) where
  log e := fun _ => log e

instance [MonadObserve m] : MonadObserve (ReaderT ρ m) where
  observe o := fun _ => observe o

instance [MonadPause m] : MonadPause (ReaderT ρ m) where
  pause ms := fun _ => MonadPause.pause ms

instance [MonadDeadline m] : MonadDeadline (ReaderT ρ m) where
  within ms act := fun r => within ms (act r)

instance [MonadShutdown m] : MonadShutdown (ReaderT ρ m) where
  unlessStopped act := fun r => unlessStopped (act r)

instance [MonadClock m] : MonadClock (ReaderT ρ m) where
  now := fun _ => now

instance [MonadRandom m] : MonadRandom (ReaderT ρ m) where
  freshId := fun _ => freshId
  freshToken := fun _ => freshToken
  freshBytes n := fun _ => freshBytes n

instance [MonadHalt m] : MonadHalt (ReaderT ρ m) where
  halt := fun _ => halt

end

end Gatehouse
