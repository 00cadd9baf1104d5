/-
  Gatehouse/Relay/HttpTransport.lean --- handing mails to a relay.

  Each mail is posted as a JSON document, with a key if there is one.  A relay that
  does not answer with success has not taken the mail, and neither has one that does not
  answer in time.

  Main definitions: `HttpTransport`, `HttpTransport.request`, `HttpTransport.send`,
  `RelayRequest.heard`.
-/
import Gatehouse.Account.Email
import Gatehouse.Config.Mailing
import Gatehouse.Effect
import Gatehouse.Infrastructure
import Gatehouse.Mailing.Outbox
import Gatehouse.Relay.Status
import Gatehouse.Text.Base64
import Gatehouse.Url.Parser

set_option autoImplicit false

namespace Gatehouse

/-! ## Requests and answers -/

/-- What is posted to the relay. -/
structure RelayRequest where
  url : Url
  /-- The values of the header of that name, in order. -/
  authorization : List String
  body : String
  /-- For how many seconds the answer is waited for. -/
  timeout : Nat
  deriving DecidableEq, Repr, Inhabited

/-- What stands on the first line of a request, between the method and the version. -/
def RelayRequest.target (r : RelayRequest) : String :=
  String.ofList (r.url.path.text ++ Url.marked '?' r.url.query)

/-- The answer of the relay. -/
structure RelayAnswer where
  status : HttpStatus
  /-- What follows the head; empty when it could not be read to its end. -/
  body : String
  deriving DecidableEq, Repr, Inhabited

/-- Why there is no answer. -/
inductive RelaySilence where
  | refused
  | unknownHost
  | closed
  | badStatus
  | badVersion
  | timedOut
  deriving DecidableEq, Repr, Inhabited

/-- The wording of a silence. -/
def RelaySilence.message : RelaySilence → String
  | .refused =>
      "error trying to connect: tcp connect error: Connection refused (os error 111)"
  | .unknownHost => "error trying to connect: dns error: failed to lookup address information: "
      ++ "Temporary failure in name resolution"
  | .closed => "connection closed before message completed"
  | .badStatus => "invalid HTTP status-code parsed"
  | .badVersion => "invalid HTTP version parsed"
  | .timedOut => "operation timed out"

/-- What is heard of an answer whose head comes after some milliseconds. -/
def RelayRequest.heard (r : RelayRequest) (delay : Nat) (answer : Except RelaySilence RelayAnswer) :
    Except RelaySilence RelayAnswer :=
  if delay < r.timeout * 1000 then answer else .error .timedOut

/-- Posting to a relay. -/
class MonadRelay (m : Type → Type) where
  post : RelayRequest → m (Except RelaySilence RelayAnswer)

/-- Why a request does not get an answer. -/
inductive RelayFault where
  | url (fault : UrlFault)
  /-- The address has no host, or is not one of the web. -/
  | scheme (url : Url)
  /-- The key has characters that no header can hold. -/
  | header
  | silent (url : Url) (silence : RelaySilence)
  deriving DecidableEq, Repr, Inhabited

/-- The wording of a fault. -/
def RelayFault.message : RelayFault → String
  | .url f => "builder error: " ++ f.message
  | .scheme u =>
      "builder error for url (" ++ String.ofList u.text ++ "): URL scheme is not allowed"
  | .header => "builder error: failed to parse header value"
  | .silent u s =>
      "error sending request for url (" ++ String.ofList u.text ++ "): " ++ s.message

/-! ## The transport -/

/-- A relay, with the key and the sender's address. -/
structure HttpTransport where
  relayUrl : String
  apiKey : Option String
  sender : String
  /-- In seconds. -/
  requestTimeout : Nat
  deriving DecidableEq, Repr, Inhabited

namespace HttpTransport

/-- The relay of the configuration, which must name one. -/
def ofConfig (c : MailRelayConfig) : Except AdapterFault HttpTransport :=
  match c.relayUrl with
  | none => .error (.config "MAIL_RELAY_URL not set")
  | some relayUrl =>
      .ok { relayUrl, apiKey := c.apiKey, sender := c.sender, requestTimeout := c.requestTimeout }

/-- The document of a mail. -/
def document (t : HttpTransport) (address subject body : String) : Json :=
  .obj [("from", .str t.sender), ("to", .str address), ("subject", .str subject),
    ("html", .str body)]

/-- Whether a header can hold a text: it has no control characters but tabs. -/
def isHeaderText (s : String) : Bool :=
  s.toList.all fun c => c = '\t' || (0x20 ≤ c.toNat && c.toNat ≠ 0x7F)

/-- Takes the user and password out of an address: they are sent in a header. -/
def takeLogin (u : Url) : Url × List String :=
  match u.authority with
  | none => (u, [])
  | some a =>
      match Utf8.string? (Percent.bytes a.user) with
      | none => (u, [])
      | some user =>
          if a.user.isEmpty && a.password.isEmpty then (u, [])
          else
            let password := (Utf8.string? (Percent.bytes a.password)).getD ""
            ({ u with authority := some { a with user := [], password := [] } },
              ["Basic " ++ Base64.encodeText (user ++ ":" ++ password)])

/-- The request that posts a mail. -/
def request (t : HttpTransport) (address subject body : String) :
    Except RelayFault RelayRequest := do
  let u ← (Url.parse t.relayUrl.toList).mapError .url
  if u.host?.isNone then throw (.scheme u)
  let (u, login) := takeLogin u
  let keys := t.apiKey.toList.map fun key => "Bearer " ++ key
  if !keys.all isHeaderText then throw .header
  if u.scheme ≠ "http".toList ∧ u.scheme ≠ "https".toList then throw (.scheme u)
  pure { url := u, authorization := login ++ keys, body := (t.document address subject body).text
         timeout := t.requestTimeout }

variable {m : Type → Type} [Monad m] [MonadRelay m]

/-- Posts a mail. -/
def post (t : HttpTransport) (address subject body : String) : ExceptT AdapterFault m Unit := do
  match t.request address subject body with
  | .error f => throw (.http f.message)
  | .ok r => do
      match ← ExceptT.lift (MonadRelay.post r) with
      | .error s => throw (.http (RelayFault.silent r.url s).message)
      | .ok a =>
          if a.status.isSuccess then pure ()
          else throw (.mail ("relay responded " ++ a.status.text ++ ": " ++ a.body))

/-- Hands a mail to the relay, and logs how that ended. -/
def send [MonadLog m] (t : HttpTransport) (address subject body : String) :
    m (Except Failure Unit) := do
  match ← (t.post address subject body).run with
  | .ok () => do
      logDebug .httpTransport "Mail handed to relay" [("to", .text (Email.mask address))]
      pure (.ok ())
  | .error f => do
      logError .httpTransport "Mail relay request failed"
        [("to", .text (Email.mask address)), ("error", .text f.message)]
      pure (.error f.toFailure)

instance [MonadLog m] : MailTransport (ReaderT HttpTransport m) where
  send address subject body := fun t => t.send address subject body

end HttpTransport

end Gatehouse
