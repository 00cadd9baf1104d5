/-
  Gatehouse/MySql/Pool.lean --- opening the database.

  Main definitions: `openPool`, `isHealthy`, `runMigrations`.
-/
import Gatehouse.Config.Stores
import Gatehouse.MySql.Transaction

set_option autoImplicit false

namespace Gatehouse.MySql

variable {m : Type → Type} [Monad m] [MonadLog m] [MonadDatabase m]

/-- Opens the database: the address is read, and a first connection is made. -/
def openPool (config : DatabaseConfig) : ExceptT AdapterFault m Unit := do
  ExceptT.lift (logInfo .database
    s!"Creating database connection pool with max_connections: {config.maxConnections}" [])
  match ConnectOptions.parse config.url with
  | .error f => throw (.config ("Invalid database URL: " ++ f.message))
  | .ok options => do
      match ← ExceptT.lift (MonadDatabase.login options) with
      | .ok () =>
          ExceptT.lift (logInfo .database "Database connection pool created successfully" [])
      | .error f => do
          ExceptT.lift (logError .database ("Failed to create database pool: " ++ f.message) [])
          throw f.toAdapter

/-- Closes the database. -/
def closePool : m Unit := logInfo .database "Closing database connection pool" []

omit [MonadLog m] in
/-- Whether the database answers. -/
def isHealthy : ExceptT AdapterFault m Bool := do
  match ← ExceptT.lift (sendToPool .ping) with
  | .error f => throw f.toAdapter
  | .ok reply =>
      match reply.rowsOr with
      | .error e => throw (Fault.returned e).toAdapter
      | .ok [] => throw (Fault.row .noRow).toAdapter
      | .ok (row :: _) =>
          match row.number with
          | .ok n => pure (n = 1)
          | .error f => throw (Fault.row f).toAdapter

omit [MonadLog m] in
/-- Makes the tables, in a transaction. -/
def migrate : ExceptT Fault m Unit := do
  match ← ExceptT.lift openTransaction with
  | .error f => throw f
  | .ok c => do
      match ← ExceptT.lift (execute c .migrate) with
      | .error e => do
          ExceptT.lift (abandon c)
          throw (.returned e)
      | .ok _ => ExceptT.adapt .returned (ExceptT.mk (finish c .commitTransaction))

/-- Makes the tables, and says so in the log. -/
def runMigrations : ExceptT AdapterFault m Unit := do
  ExceptT.lift (logInfo .database "Running database migrations" [])
  migrate.adapt fun f => (Fault.migration f).toAdapter
  ExceptT.lift (logInfo .database "Database migrations completed" [])

end Gatehouse.MySql
