/-
  Gatehouse/Log.lean --- log events and observations.

  A log event has a level, a source, a message and named values.  An observation is a
  failure that did not stop its finder: it was tolerated (a warning) or given up
  on (an error).  An observer may pass observations on to the log, with the
  context written as `key=value` pairs.

  Main definitions: `LogEvent`, `Observation`, `Observation.toEvent`.
-/
import Gatehouse.Failure

set_option autoImplicit false

namespace Gatehouse

/-- How urgent a log event is. -/
inductive LogLevel where
  | trace
  | debug
  | info
  | warn
  | error
  deriving DecidableEq, Repr, Inhabited

namespace LogLevel

/-- The name of a level. -/
def name : LogLevel → String
  | .trace => "TRACE"
  | .debug => "DEBUG"
  | .info => "INFO"
  | .warn => "WARN"
  | .error => "ERROR"

/-- The rank of a level: the more detailed, the higher. -/
def rank : LogLevel → Nat
  | .error => 1
  | .warn => 2
  | .info => 3
  | .debug => 4
  | .trace => 5

end LogLevel

/-- The value of a field. -/
inductive LogValue where
  | text (s : String)
  | number (i : Int)
  deriving DecidableEq, Repr, Inhabited

/-- The value as text. -/
def LogValue.toText : LogValue → String
  | .text s => s
  | .number i => toString i

/-- The part of the program that an entry of the log comes from. -/
inductive LogSource where
  | unitOfWork
  | observer
  | signer
  | tokens
  | accounts
  | mailQueue
  | dispatcher
  | database
  | transaction
  | cache
  | denylist
  | logTransport
  | httpTransport
  | mailer
  deriving DecidableEq, Repr, Inhabited

/-- The path of a source, by which filters name it or the group it is in. -/
def LogSource.path : LogSource → String
  | .unitOfWork => "yas_core::services::unit_of_work"
  | .observer => "yas_core::services::observer"
  | .signer => "yas_core::services::token::signer"
  | .tokens => "yas_core::services::token::service"
  | .accounts => "yas_core::services::account::service"
  | .mailQueue => "yas_core::services::mailing::queue"
  | .dispatcher => "yas_core::services::mailing::dispatcher"
  | .database => "yas_infra::database::connection"
  | .transaction => "yas_infra::database::mysql::transaction"
  | .cache => "yas_infra::cache::redis_client"
  | .denylist => "yas_infra::cache::revocation_store"
  | .logTransport => "yas_infra::mail::log_transport"
  | .httpTransport => "yas_infra::mail::http_transport"
  | .mailer => "yas_mailer"

/-- An entry of the log. -/
structure LogEvent where
  level : LogLevel
  source : LogSource
  message : String
  fields : List (String × LogValue)
  deriving DecidableEq, Repr, Inhabited

/-- A failure reported by the place that found it. -/
structure Observation where
  /-- Whether the failure was given up on, not only tolerated. -/
  isError : Bool
  event : String
  /-- What failed. -/
  failure : Failure
  fields : List (String × String)
  deriving Repr, Inhabited

namespace Observation

/-- The context of an observation as one text. -/
def context (o : Observation) : String :=
  " ".intercalate (o.fields.map fun f => f.1 ++ "=" ++ f.2)

/-- The log event of an observation. -/
def toEvent (o : Observation) : LogEvent :=
  { level := if o.isError then .error else .warn
    source := .observer
    message := o.event
    fields := [("error", .text o.failure.message), ("context", .text o.context)] }

end Observation

end Gatehouse
