/-
  Gatehouse/Simulation/PlayedRelay.lean --- a relay that gives one answer.

  Main definitions: `PlayedRelay`, `PlayedRelay.answer`.
-/
import Gatehouse.Relay.HttpTransport
import Gatehouse.Simulation.Runtime

set_option autoImplicit false

namespace Gatehouse

/-- How the played relay behaves. -/
inductive RelayMood where
  /-- It answers with a line and a body. -/
  | answers (line body : String)
  /-- It hangs up when it has read the request. -/
  | hangsUp
  /-- It is not there. -/
  | absent
  deriving DecidableEq, Repr, Inhabited

/-- The played relay, with the requests that it read, the last first. -/
structure PlayedRelay where
  mood : RelayMood
  received : List RelayRequest
  deriving DecidableEq, Repr, Inhabited

namespace PlayedRelay

/-- Why a relay that is not there does not answer: its host is unknown, or refuses. -/
def silenceOf (r : RelayRequest) : RelaySilence :=
  match r.url.host? with
  | some (.domain name) => if name = "localhost".toList then .refused else .unknownHost
  | _ => .refused

/-- The answer that a line and a body make.  An interim answer is passed over, and the
body is then read as the beginning of the next one. -/
def answerOf (line body : String) : Except RelaySilence RelayAnswer :=
  match HttpStatus.ofLine? line.toList with
  | none => .error .badStatus
  | some status =>
      if status.isInterim then .error (if body.isEmpty then .closed else .badVersion)
      else .ok { status, body := if status.hasBody then body else "" }

/-- The answer to a request; it is there at once. -/
def answer (r : RelayRequest) (mood : RelayMood) : Except RelaySilence RelayAnswer :=
  r.heard 0 (match mood with
    | .answers line body => answerOf line body
    | .hangsUp => .error .closed
    | .absent => .error (silenceOf r))

/-- Whether a request is read: nothing is sent when no answer is waited for. -/
def reads (r : RelayRequest) (mood : RelayMood) : Bool := mood ≠ .absent && r.timeout ≠ 0

instance : MonadRelay (Virtual PlayedRelay) where
  post r := modifyGet fun rt =>
    let w := rt.world
    (answer r w.mood,
      { rt with world := { w with received := if reads r w.mood then r :: w.received
                                              else w.received } })

end PlayedRelay

end Gatehouse
