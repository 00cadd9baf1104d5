/-
  Gatehouse/Relay/LogTransport.lean --- the log in place of a mail relay.
-/
import Gatehouse.Account.Email
import Gatehouse.Effect
import Gatehouse.Text.Utf8

set_option autoImplicit false

namespace Gatehouse

/-- Accepts a mail and writes to the log what would have been sent: the masked
address, the subject, and the length of the body in bytes. -/
def sendToLog {m : Type → Type} [Monad m] [MonadLog m] (address subject body : String) :
    m (Except Failure Unit) := do
  logInfo .logTransport "Mail delivered to log"
    [("to", .text (Email.mask address)), ("subject", .text subject),
      ("body_len", .number (Utf8.bytes body).length)]
  pure (.ok ())

end Gatehouse
