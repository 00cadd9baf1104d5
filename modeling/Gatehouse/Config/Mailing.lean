/-
  Gatehouse/Config/Mailing.lean --- the outbox and the mail relay.

  Main definitions: `MailingConfig`, `MailProvider`, `MailRelayConfig`.
-/
import Gatehouse.Config.Environment

set_option autoImplicit false

namespace Gatehouse

/-- The pace of the outbox; times are in milliseconds. -/
structure MailingConfig where
  /-- The pause between two cycles. -/
  delay : Nat
  /-- The deadline of one cycle, with its retries. -/
  processTimeout : Nat
  batchSize : Nat
  processMaxRetries : Nat
  saveMaxRetries : Nat
  /-- The pause between two attempts. -/
  retryDelay : Nat
  deriving DecidableEq, Repr, Inhabited

namespace MailingConfig

/-- The built-in setting. -/
def default : MailingConfig :=
  { delay := 300, processTimeout := 60000, batchSize := 20, processMaxRetries := 5,
    saveMaxRetries := 3, retryDelay := 500 }

/-- The shortest pause between two cycles that a variable may set. -/
def minDelay : Nat := 100

/-- The number that a variable sets, if it is at least `least`, cut to 32 bits. -/
def count (vars : Variables) (name : String) (least fallback : Nat) : Nat :=
  match (vars.number? name).filter fun n => least ≤ n with
  | some n => n % 0x100000000
  | none => fallback

/-- The setting that the variables give. -/
def ofVariables (vars : Variables) : MailingConfig :=
  let atLeast (name : String) (least fallback : Nat) : Nat :=
    ((vars.number? name).filter fun n => least ≤ n).getD fallback
  { default with
    delay := atLeast "MAILING_DELAY_MS" minDelay default.delay
    processTimeout := atLeast "MAILING_PROCESS_TIMEOUT_MS" 1 default.processTimeout
    batchSize := count vars "MAILING_BATCH_SIZE" 1 default.batchSize
    processMaxRetries := count vars "PROCESS_MAX_RETRIES" 1 default.processMaxRetries
    saveMaxRetries := count vars "SAVE_MAIL_MAX_RETRIES" 1 default.saveMaxRetries }

def toJson (c : MailingConfig) : Json :=
  .obj [("delay_ms", .nat c.delay), ("process_timeout_ms", .nat c.processTimeout),
    ("batch_size", .nat c.batchSize), ("process_max_retries", .nat c.processMaxRetries),
    ("save_max_retries", .nat c.saveMaxRetries), ("retry_delay_ms", .nat c.retryDelay)]

def ofJson? (v : Json) : Option MailingConfig :=
  match v.record? ["delay_ms", "process_timeout_ms", "batch_size", "process_max_retries",
      "save_max_retries", "retry_delay_ms"] with
  | some [delay, timeout, batch, process, save, retry] => do
      let delay ← delay.required Json.nat64?
      let processTimeout ← timeout.required Json.nat64?
      let batchSize ← batch.required Json.nat32?
      let processMaxRetries ← process.required Json.nat32?
      let saveMaxRetries ← save.required Json.nat32?
      let retryDelay ← retry.required Json.nat64?
      some { delay, processTimeout, batchSize, processMaxRetries, saveMaxRetries, retryDelay }
  | _ => none

end MailingConfig

/-- What delivers the mails of the outbox. -/
inductive MailProvider where
  /-- A relay that takes each mail as a JSON document. -/
  | http
  /-- The log, in place of delivery. -/
  | log
  deriving DecidableEq, Repr, Inhabited

namespace MailProvider

def name : MailProvider → String
  | .http => "http"
  | .log => "log"

def toJson (p : MailProvider) : Json := .str p.name

def ofJson? : Json → Option MailProvider := Json.name? [("http", .http), ("log", .log)]

end MailProvider

/-- How to reach the mail relay. -/
structure MailRelayConfig where
  provider : MailProvider
  relayUrl : Option String
  apiKey : Option String
  /-- The address of the sender. -/
  sender : String
  /-- In seconds. -/
  requestTimeout : Nat
  deriving DecidableEq, Repr, Inhabited

namespace MailRelayConfig

/-- The built-in setting. -/
def default : MailRelayConfig :=
  { provider := .log, relayUrl := none, apiKey := none, sender := "no-reply@localhost",
    requestTimeout := 10 }

/-- The setting that the variables give. -/
def ofVariables (vars : Variables) : MailRelayConfig :=
  { provider := if vars.get? "MAIL_PROVIDER" = some "http" then .http else .log
    relayUrl := vars.filled? "MAIL_RELAY_URL"
    apiKey := vars.filled? "MAIL_RELAY_API_KEY"
    sender := vars.text "MAIL_FROM" default.sender
    requestTimeout := (vars.number? "MAIL_RELAY_TIMEOUT_SECS").getD default.requestTimeout }

def toJson (c : MailRelayConfig) : Json :=
  .obj [("provider", c.provider.toJson), ("relay_url", .optStr c.relayUrl),
    ("api_key", .optStr c.apiKey), ("from", .str c.sender),
    ("request_timeout_secs", .nat c.requestTimeout)]

def ofJson? (v : Json) : Option MailRelayConfig :=
  match v.record? ["provider", "relay_url", "api_key", "from", "request_timeout_secs"] with
  | some [provider, url, key, sender, timeout] => do
      let provider ← provider.required MailProvider.ofJson?
      let relayUrl ← url.withDefault none (Json.optional? Json.str?)
      let apiKey ← key.withDefault none (Json.optional? Json.str?)
      let sender ← sender.required Json.str?
      let requestTimeout ← timeout.required Json.nat64?
      some { provider, relayUrl, apiKey, sender, requestTimeout }
  | _ => none

end MailRelayConfig

end Gatehouse
