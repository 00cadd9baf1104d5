/-
  Gatehouse/Simulation/Report.lean --- what a simulation did, as JSON.

  Main definitions: `Report.result`, `Report.event`, `Report.call`, `Report.stores`,
  `Report.statement`.
-/
import Gatehouse.Log.Line
import Gatehouse.Simulation.PlayedCache
import Gatehouse.Simulation.PlayedDatabase
import Gatehouse.Simulation.PlayedRelay
import Gatehouse.Simulation.Script
import Gatehouse.Simulation.Staging
import Gatehouse.Text.Search

set_option autoImplicit false

namespace Gatehouse.Report

/-! ## Results -/

/-- A value that was returned. -/
def ok (v : Json) : Json := .obj [("ok", v)]

/-- A failure, by its kind, code and message. -/
def failure (e : Failure) : Json :=
  .obj [("error", .str e.kind.name), ("code", .str e.code), ("message", .str e.message)]

/-- A result. -/
def result {α : Type} (value : α → Json) : Except Failure α → Json
  | .ok a => ok (value a)
  | .error e => failure e

/-- No value. -/
def unit (_ : Unit) : Json := .null

/-- A value that may be missing. -/
def orNull {α : Type} (value : α → Json) : Option α → Json
  | some a => value a
  | none => .null

/-- An id that may be missing. -/
def optId : Option Uuid → Json := orNull fun id => .str id.text

/-! ## Log and observations -/

/-- The fields of log events that are not shown: they differ from run to run. -/
def hiddenFields : List String := ["correlation_id", "reason"]

/-- A log event. -/
def event (e : LogEvent) : Json :=
  .arr [.str e.level.name, .str e.message,
    .obj ((e.fields.filter fun f => !hiddenFields.contains f.1).map
      fun f => (f.1, .str f.2.toText))]

/-- A log event as a program prints it, and whether it has the place that wrote it. -/
def printedEvent (hasPlace : Bool) (e : LogEvent) : Json :=
  .arr [.str e.level.name, .str e.message, .obj (e.fields.map fun f => (f.1, f.2.toJson)),
    .bool hasPlace]

/-- An observation. -/
def observation (o : Observation) : Json :=
  .arr [.str (if o.isError then "error" else "warn"), .str o.event, .str o.failure.message,
    .arr (o.fields.map fun f => .arr [.str f.1, .str f.2])]

/-! ## Claims -/

/-- The claims of a token but for its id. -/
def claims (c : Claims) : Json :=
  .obj [("sub", .str c.sub), ("iat", .int c.iat), ("exp", .int c.exp), ("iss", .str c.iss),
    ("typ", c.typ.toJson)]

/-- A signed token: its label, its claims, and whether its id is a random one. -/
def signedToken (ls : Labels) (token : String) : Json :=
  match ((Jwt.parts? token.toList).bind fun p => Jwt.value? p.2.1).bind Claims.ofJson? with
  | some c => .arr [.str (ls.mask token), claims c, .bool (Uuid.isRandomText c.jti)]
  | none => .null

/-- The two tokens of a session, and whether they differ. -/
def session (ls : Labels) (p : TokenPair) : Json :=
  .arr [signedToken ls p.accessToken, signedToken ls p.refreshToken,
    .bool (p.accessToken != p.refreshToken)]

/-! ## Played collaborators -/

/-- A user with all fields. -/
def user (u : User) : Json :=
  .obj [("id", optId u.id), ("name", .str u.name), ("email", .str u.email),
    ("password_hash", .str u.passwordHash), ("is_active", .bool u.isActive)]

/-- A mail, with labels in its content. -/
def mail (ls : Labels) (m : Mail) : Json := { m with content := ls.mask m.content }.toJson

/-- What a call was made with. -/
def argument (ls : Labels) : Argument → Json
  | .text s => .str (ls.mask s)
  | .number n => .nat n
  | .flag b => .bool b
  | .user u => user u
  | .mail m => mail ls m
  | .batch l => .arr (l.map fun m => .arr [.str m.logId, .bool m.mailed])

/-- A call, with its time if that is wanted. -/
def call (isTimed : Bool) (ls : Labels) (c : Call) : Json :=
  .arr ((if isTimed then [.nat c.time] else []) ++ .str c.name :: c.arguments.map (argument ls))

/-- The calls of a run. -/
def calls (isTimed : Bool) (w : Rehearsal) : Json :=
  .arr (w.calls.reverse.map (call isTimed w.labels))

/-- The revoked tokens, with whole seconds. -/
def revoked (w : Rehearsal) : Json :=
  .arr (w.revoked.map fun r => .arr [.str (w.labels.mask r.1), .nat r.2.seconds])

/-- A credential. -/
def credential (ls : Labels) (c : Credential) : Json :=
  .arr [.str (ls.mask c.token), .str c.userId.text]

/-- All that is stored. -/
def stores (w : Rehearsal) : Json :=
  .obj [("users", .arr (w.users.map user)),
    ("activations", .arr (w.activations.map (credential w.labels))),
    ("recoveries", .arr (w.recoveries.map (credential w.labels))),
    ("mails", .arr (w.mails.map (mail w.labels))), ("revoked", revoked w)]

/-! ## The outbox -/

/-- What a run delivered. -/
def delivery (r : DispatchReport) : Json :=
  .obj [("cycles", .nat r.cycles), ("delivered", .nat r.delivered), ("failed", .nat r.failed)]

/-- How a run ended, with what it had delivered when it was stopped. -/
def stoppable (r : Except Failure DispatchReport) : Json :=
  match result delivery r with
  | .obj members => .obj (members ++ [("cancelled", match r with
      | .error (.mailing (.cancelled a b c)) => .arr [.nat a, .nat b, .nat c]
      | _ => .null)])
  | v => v

/-- What a cycle delivered. -/
def cycle : CycleOutcome → Json
  | .drained => .str "drained"
  | .delivered a b => .arr [.nat a, .nat b]

/-! ## The database -/

/-- A bound value, with a label in the place of a labelled text. -/
def bound (ls : Labels) : MySql.Value → Json
  | .null => .null
  | .text s => .str ((ls.of? s).elim s fun l => "<" ++ l.name ++ ">")
  | .flag b => .int (if b then 1 else 0)
  | .number i => .int i

/-- The texts among the bound values that are random ids and do not occur in `known`. -/
def newIds (known : String) (statements : List ReceivedStatement) : List String :=
  (statements.flatMap fun r => r.statement.binds).filterMap fun b =>
    match b with
    | .text s =>
        if Uuid.isRandomText s && !Text.contains s.toList known.toList then some s else none
    | _ => none

/-- Labels the ids that are new in some statements. -/
def labelIds (known : String) (statements : List ReceivedStatement) (ls : Labels) : Labels :=
  (newIds known statements).foldl (fun ls s => ls.add .id s) ls

/-- A statement that was received. -/
def statement (ls : Labels) (r : ReceivedStatement) : Json :=
  .arr [.str (if r.inTransaction then "tx" else "pool"), .str r.statement.text,
    .arr (r.statement.binds.map (bound ls))]

/-- A user as read from the database. -/
def storedUser (ls : Labels) (u : User) : Json :=
  .obj [("id", orNull (fun id => bound ls (.text id.text)) u.id), ("name", .str u.name),
    ("email", .str u.email), ("password_hash", .str u.passwordHash),
    ("is_active", .bool u.isActive)]

/-! ## Scripted units of work -/

/-- What ran when a unit of work ended. -/
def scripted : ScriptedEvent → Json
  | .commitHandle n l => .arr [.str "tx.commit", .str n, .arr (l.map Json.str)]
  | .rollbackHandle n l => .arr [.str "tx.rollback", .str n, .arr (l.map Json.str)]
  | .undo n => .arr [.str "rollback", .str n]
  | .finish n => .arr [.str "commit", .str n]

/-! ## Stores kept in memory -/

/-- A value with labels in the place of labelled texts. -/
def masked (ls : Labels) (v : Json) : Json := v.mapText ls.mask

/-- A kept user as a row. -/
def userRow (u : User) : Json :=
  .arr [optId u.id, .str u.name, .str u.email, .str u.passwordHash, .bool u.isActive]

/-- Values in the order of their texts. -/
def byText (l : List Json) : List Json := l.mergeSort fun a b => a.text ≤ b.text

/-- Kept credentials in the order of their tokens as shown. -/
def pending (ls : Labels) (t : Table String Credential) : Json :=
  .arr (((t.values.map fun c => { c with token := ls.mask c.token }).mergeSort
    fun a b => a.token ≤ b.token).map fun c => masked ls c.toJson)

/-- All that is kept. -/
def memory (ls : Labels) (s : Memory) : List (String × Json) :=
  [("users", .arr (byText (s.users.values.map fun u => masked ls (userRow u)))),
    ("count", .nat s.users.size), ("activations", pending ls s.activations),
    ("recoveries", pending ls s.recoveries),
    ("mails", masked ls (.arr (s.mails.map Mail.toJson))),
    ("saves", masked ls (.arr (s.saves.map fun l =>
      .arr (l.map fun m => .arr [.str m.logId, .bool m.mailed])))),
    ("fetches", .nat s.fetches)]

/-! ## The cache and the relay -/

/-- The commands that the cache received. -/
def commands (w : PlayedCache) : Json :=
  .arr (w.received.reverse.map fun c => .arr (c.words.map Json.str))

/-- The request that the relay read. -/
def request (w : PlayedRelay) : Json :=
  match w.mood, w.received with
  | .hangsUp, _ :: _ => .str "closed"
  | _, r :: _ =>
      .obj [("line", .str ("POST " ++ r.target ++ " HTTP/1.1")),
        ("authorization", orNull (fun s => .str (String.ofList (Text.trim s.toList)))
          r.authorization.head?),
        ("content_type", .str "application/json"), ("body", .str r.body)]
  | _, [] => .null

end Gatehouse.Report
