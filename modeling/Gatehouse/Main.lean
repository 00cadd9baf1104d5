/-
  Gatehouse/Main.lean --- the mailer as a program.

  The settings come from the environment and the log goes to standard output.  No
  driver of a database is part of this library: to the program, every database is one
  that cannot be reached.  So it tells whether its settings are sound, and ends at the
  first step that needs the database.
-/
import Gatehouse.Log.Line
import Gatehouse.Simulation.PlayedMailer

set_option autoImplicit false

namespace Gatehouse.Mailer

/-- The names of the variables that the settings are read from. -/
def variableNames : List String :=
  ["ACTIVATION_URL", "APP_ENV", "DATABASE_CONNECT_TIMEOUT", "DATABASE_MAX_CONNECTIONS",
   "DATABASE_RUN_MIGRATIONS", "DATABASE_URL", "ENVIRONMENT", "JWT_ACCESS_TOKEN_EXPIRY",
   "JWT_ISSUER", "JWT_REFRESH_TOKEN_EXPIRY", "JWT_SECRET", "LOG_FORMAT", "LOG_LEVEL",
   "MAILING_BATCH_SIZE", "MAILING_DELAY_MS", "MAILING_PROCESS_TIMEOUT_MS", "MAIL_FROM",
   "MAIL_PROVIDER", "MAIL_RELAY_API_KEY", "MAIL_RELAY_TIMEOUT_SECS", "MAIL_RELAY_URL",
   "PASSWORD_RECOVERY_URL", "PROCESS_MAX_RETRIES", "REDIS_CONNECTION_TIMEOUT",
   "REDIS_KEY_PREFIX", "REDIS_URL", "RUST_LOG", "SAVE_MAIL_MAX_RETRIES"]

/-- The variables that are set. -/
def variablesOfProcess : IO Variables :=
  variableNames.filterMapM fun name => do
    let text ← IO.getEnv name
    pure (text.map fun s => (name, s))

/-- The database that cannot be reached. -/
def absentDatabase : PlayedDatabase :=
  { PlayedDatabase.new [] with refusal := some .noConnection }

/-- Runs the mailer on the settings of the environment. -/
def start : IO UInt32 := do
  let vars ← variablesOfProcess
  let format := (AppConfig.ofVariables vars).logging.format
  let (code, events, _) :=
    PlayedMailer.rehearse vars { database := absentDatabase, patience := none }
  for e in events do
    IO.println (format.line e)
  pure (code.getD 1).toUInt32

end Gatehouse.Mailer

def main : IO UInt32 := Gatehouse.Mailer.start
