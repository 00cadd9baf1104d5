/-
  Gatehouse/Relay/Carrier.lean --- where the mails of a configuration go.

  Main definitions: `MailCarrier`, `MailCarrier.ofConfig`.
-/
import Gatehouse.Relay.HttpTransport
import Gatehouse.Relay.LogTransport

set_option autoImplicit false

namespace Gatehouse

/-- Where mails go. -/
inductive MailCarrier where
  | toLog
  | toRelay (transport : HttpTransport)
  deriving DecidableEq, Repr, Inhabited

namespace MailCarrier

/-- The carrier of a configuration. -/
def ofConfig (c : MailRelayConfig) : Except AdapterFault MailCarrier :=
  match c.provider with
  | .log => .ok .toLog
  | .http => (HttpTransport.ofConfig c).map .toRelay

instance {m : Type → Type} [Monad m] [MonadLog m] [MonadRelay m] :
    MailTransport (ReaderT MailCarrier m) where
  send address subject body := fun carrier =>
    match carrier with
    | .toLog => sendToLog address subject body
    | .toRelay t => t.send address subject body

end MailCarrier

end Gatehouse
