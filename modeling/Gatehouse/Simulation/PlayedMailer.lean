/-
  Gatehouse/Simulation/PlayedMailer.lean --- the mailer program with played surroundings.

  The program runs in virtual time against a database that follows a plan and a relay
  that is not there.  It may be interrupted: some time after the last statement, once
  enough statements were received.

  Main definitions: `PlayedMailer`, `PlayedMailer.rehearse`.
-/
import Gatehouse.Log.Filter
import Gatehouse.Mailer
import Gatehouse.Simulation.PlayedDatabase
import Gatehouse.Simulation.PlayedRelay

set_option autoImplicit false

namespace Gatehouse

/-- What is around the program. -/
structure PlayedMailer where
  database : PlayedDatabase
  /-- After how many statements the program is interrupted, if it is. -/
  patience : Option Nat
  deriving DecidableEq, Repr, Inhabited

namespace PlayedMailer

/-- A run of the program. -/
abbrev Run := Virtual PlayedMailer

/-- How long the database has to be quiet before the program is interrupted, in
milliseconds. -/
def quiet : Nat := 200

/-- When the program is to stop, after a statement was received. -/
def stopAfter? (w : PlayedMailer) (now : Nat) : Option StopRequest :=
  match w.patience with
  | some n =>
      if n ≤ w.database.received.length then some { instant := now + quiet, winsTies := false }
      else none
  | none => none

instance : MonadDatabase Run where
  login _ := do
    match (← Virtual.world).database.refusal with
    | none => pure (.ok ())
    | some f => pure (.error f)
  connect := modifyGet fun rt =>
    let db := rt.world.database
    (.ok ⟨db.connections⟩,
      { rt with world := { rt.world with
                           database := { db with connections := db.connections + 1 } } })
  send c s := modifyGet fun rt =>
    let (reply, database) := rt.world.database.answer c s
    let world := { rt.world with database }
    (reply, { rt with world, stop := world.stopAfter? rt.elapsed })

instance : MonadRelay Run where
  post r := pure (PlayedRelay.answer r .absent)

/-- The address of a played database. -/
def databaseUrl : String := "mysql://db/yas"

/-- The variables with the address of the played database, unless they have another, and
the database, which is played at that address and nowhere else. -/
def reach (given : Variables) (db : PlayedDatabase) : Variables × PlayedDatabase :=
  match given.get? "DATABASE_URL" with
  | none => (("DATABASE_URL", databaseUrl) :: given, db)
  | some _ => (given, { db with refusal := some .noConnection })

/-- Runs the program: its exit code and the events that its filter lets pass. -/
def rehearse (vars : Variables) (w : PlayedMailer) : Option Nat × List LogEvent × PlayedMailer :=
  let config := AppConfig.ofVariables vars
  let act : Run Nat := Mailer.program config
  let (code, rt) := act.runOn { Runtime.new Entropy.spread w with observer := .trace }
  let shown := LogFilter.ofSettings vars config.logging
  (code.toOption, rt.events.filter shown.allows, rt.world)

end PlayedMailer

end Gatehouse
