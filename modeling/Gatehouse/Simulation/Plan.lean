/-
  Gatehouse/Simulation/Plan.lean --- reading how collaborators are to behave.

  Main definitions: `Plan.failure?`, `Plan.fault?`, `Plan.mail?`, `Plan.reply?`.
-/
import Gatehouse.Json.Fields
import Gatehouse.Simulation.PlayedDatabase
import Gatehouse.Simulation.Rehearsal
import Gatehouse.Simulation.Script

set_option autoImplicit false

namespace Gatehouse.Plan

open Fields

/-! ## Failures -/

/-- The failures of accounts by name. -/
def authFailures : List (String × AuthFailure) :=
  [("EmailAlreadyTaken", .emailAlreadyTaken), ("UserNotFound", .userNotFound),
   ("ActivationNotFound", .activationNotFound), ("RecoveryNotFound", .recoveryNotFound),
   ("WrongCredentials", .wrongCredentials)]

/-- A failure of one cause, by the name of the cause and what is known of it. -/
def simpleFailure? (name : String) (v : Json) : Option Failure :=
  match name with
  | "internal" => v.str?.map .internal
  | "auth" => (v.str?.bind fun s => authFailures.lookup s).map .auth
  | "invalid_token" => some (.token .invalid)
  | "negative_ttl" => (int? v).map fun n => .token (.negativeTtl n)
  | "generation" => v.str?.map fun s => .token (.generation s)
  | "all_failed" => (nat? v).map fun n => .mailing (.allFailed n)
  | "timeout" => (nat? v).map fun n => .mailing (.timeout n)
  | "cancelled" =>
      match listOf nat? v with
      | some [a, b, c] => some (.mailing (.cancelled a b c))
      | _ => none
  | _ => none

mutual

/-- A failure: a text stands for an internal one; others are named, and may wrap
failures. -/
def failure? : Json → Option Failure
  | .str s => some (.internal s)
  | .obj [(name, .obj members)] =>
      if name = "retries" then do
        let attempts ← natOr (.obj members) "attempts" 0
        let last ← source? members
        some (.retriesExhausted attempts last)
      else none
  | .obj [(name, .arr items)] =>
      if name = "commit" then (failures? items).map .commit
      else simpleFailure? name (.arr items)
  | .obj [(name, v)] => simpleFailure? name v
  | _ => none

/-- The failure that is wrapped. -/
def source? : List (String × Json) → Option Failure
  | [] => none
  | (key, v) :: rest => if key = "source" then failure? v else source? rest

/-- Several failures. -/
def failures? : List Json → Option (List Failure)
  | [] => some []
  | v :: rest => do
      let first ← failure? v
      let others ← failures? rest
      some (first :: others)

end

/-- A failure under a key. -/
def optFailure (v : Json) (key : String) : Option (Option Failure) := opt failure? v key

/-- A failure that calls of one name are made to have, or none any more. -/
def fault? (v : Json) : Option (String × Option PlannedFault) := do
  let name ← str v "at"
  match ← optFailure v "with" with
  | none => some (name, none)
  | some e =>
      let times ← opt nat? v "times"
      some (name, some { failure := e, skip := ← natOr v "skip" 0, times })

/-- A value or a failure. -/
def outcome? (v : Json) : Option (Except Failure Json) :=
  match v.get? "ok" with
  | some value => some (.ok value)
  | none => (failure? (field v "error")).map .error

/-- A value or a failure that takes its time. -/
def result? (v : Json) : Option (ScriptedResult Json) := do
  some { delay := ← natOr v "ms" 0, result := ← outcome? v }

/-! ## Variables -/

/-- A variable: a text, or bytes, which are no text if they are not well formed. -/
def setting? : String × Json → Option (Option (String × String))
  | (name, .str s) => some (some (name, s))
  | (name, v) => do
      let bytes ← listOf nat? (field v "bytes")
      some ((Utf8.string? (bytes.map Nat.toUInt8)).map fun s => (name, s))

/-- The variables that are set. -/
def variables? (v : Json) : Option Variables :=
  match v with
  | .obj members => (members.mapM setting?).map fun l => l.filterMap id
  | _ => none

/-! ## Tokens -/

/-- A token: a text, which may stand for a labelled one, or a labelled one altered at its
ends, which gets a label of its own. -/
def token? (ls : Labels) (v : Json) : Option (String × Labels) :=
  match v with
  | .str s =>
      match s.toList with
      | '$' :: name => some ((ls.text? (String.ofList name)).getD s, ls)
      | _ => some (s, ls)
  | v => do
      let name ← str v "of"
      let base := ((ls.text? name).getD name).toList
      let kept := base.take (base.length - (← natOr v "drop_last" 0))
      let text := (← strOr v "prepend" "") ++ String.ofList kept ++ (← strOr v "append" "")
      some (text, ls.add .altered text)

/-! ## Mails and the outbox -/

/-- A mail; the id of a stored one may be given as such. -/
def mail? (v : Json) : Option Mail := do
  some { id := (← optUuid v "id").or (← optUuid v "stored"), address := ← str v "address",
         subject := ← strOr v "subject" "Subject", content := ← strOr v "content" "Body",
         mailed := ← boolOr v "mailed" false }

/-- The settings of the outbox. -/
def dispatcher? (v : Json) : Option Dispatcher := do
  let delay ← natOr v "retry_delay_ms" 500
  let processRetrier := Retrier.mk "process mails" (← natOr v "process_retries" 5) delay
  let saveRetrier := Retrier.mk "save mails" (← natOr v "save_retries" 3) delay
  some { delay := ← natOr v "delay_ms" 300, processTimeout := ← natOr v "timeout_ms" 60000,
         batchSize := ← natOr v "batch_size" 20, processRetrier, saveRetrier }

/-! ## Replies of the database -/

/-- A value of a row. -/
def value? : Json → Option MySql.Value
  | .null => some .null
  | .str s => some (.text s)
  | .bool b => some (.flag b)
  | .int i => some (.number i)
  | _ => none

/-- An error of the database. -/
def databaseError? : Json → Option MySql.DatabaseError
  | .arr [code, .str state, .str message] => do some { code := ← nat? code, state, message }
  | _ => none

/-- How a statement is to be answered. -/
def reply? (v : Json) : Option PlannedReply :=
  match v, v.get? "affected", v.get? "error", v.get? "rows" with
  | .null, _, _, _ => some .usual
  | _, some n, _, _ => (nat? n).map .affected
  | _, _, some e, _ => (databaseError? e).map .failed
  | _, _, _, some rows => do
      let columns ← opt (listOf Json.str?) v "columns"
      some (.rows columns (← listOf (listOf value?) rows))
  | _, _, _, _ => none

end Gatehouse.Plan
