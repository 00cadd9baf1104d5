/-
  Gatehouse/MySql/Statement.lean --- the statements that are sent to the database.

  Ids are kept as texts of 36 characters; a mail is pending while it has no time of
  delivery.

  Main definitions: `Statement`, with its text, its bound values and the columns of
  its result.
-/
import Gatehouse.Account.Service
import Gatehouse.MySql.Schema

set_option autoImplicit false

namespace Gatehouse.MySql

/-- A value that is bound to a statement or stands in a row. -/
inductive Value where
  | null
  | text (s : String)
  | flag (b : Bool)
  | number (i : Int)
  deriving DecidableEq, Repr, Inhabited

/-- A statement with what is bound to it. -/
inductive Statement where
  | beginTransaction
  | commitTransaction
  | rollbackTransaction
  /-- Asks whether the database answers. -/
  | ping
  /-- Makes the tables. -/
  | migrate
  | emailTaken (email : String)
  | userById (id : Uuid)
  | userByEmail (email : String)
  | insertUser (id : Uuid) (user : User)
  | updatePassword (id : Uuid) (hash : String)
  | activateUser (id : Uuid)
  | findCredential (kind : CredentialKind) (token : String)
  | insertCredential (kind : CredentialKind) (credential : Credential)
  | deleteCredential (kind : CredentialKind) (token : String)
  /-- Adds a pending mail. -/
  | queueMail (id : Uuid) (mail : Mail)
  | pendingMails (limit : Nat)
  /-- Adds a mail in the state of delivery that it has. -/
  | insertMail (id : Uuid) (mail : Mail)
  /-- Marks mails as delivered. -/
  | markSent (ids : List Uuid)
  deriving DecidableEq, Repr, Inhabited

/-- The table of a kind of credentials. -/
def credentialTable : CredentialKind → String
  | .activation => "user_activations"
  | .recovery => "password_recoveries"

namespace Statement

/-- The columns of a user. -/
def userColumns : List String := ["id", "name", "email", "password_hash", "is_active"]

/-- The query for the user with a value in a column. -/
def userQuery (column : String) : String :=
  "SELECT id, name, email, password_hash, is_active FROM users WHERE " ++ column
    ++ " = ? LIMIT 1"

/-- The text of a statement, with a question mark for each bound value. -/
def text : Statement → String
  | .beginTransaction => "BEGIN"
  | .commitTransaction => "COMMIT"
  | .rollbackTransaction => "ROLLBACK"
  | .ping => "SELECT 1"
  | .migrate => schema
  | .emailTaken _ => "SELECT EXISTS(SELECT 1 FROM users WHERE email = ?) AS taken"
  | .userById _ => userQuery "id"
  | .userByEmail _ => userQuery "email"
  | .insertUser _ _ =>
      "INSERT INTO users (id, name, email, password_hash, is_active) VALUES (?, ?, ?, ?, ?)"
  | .updatePassword _ _ => "UPDATE users SET password_hash = ? WHERE id = ?"
  | .activateUser _ => "UPDATE users SET is_active = TRUE WHERE id = ?"
  | .findCredential kind _ =>
      "SELECT token, user_id FROM " ++ credentialTable kind ++ " WHERE token = ? LIMIT 1"
  | .insertCredential kind _ =>
      "INSERT INTO " ++ credentialTable kind ++ " (token, user_id) VALUES (?, ?)"
  | .deleteCredential kind _ => "DELETE FROM " ++ credentialTable kind ++ " WHERE token = ?"
  | .queueMail _ _ => "INSERT INTO mails (id, address, subject, content) VALUES (?, ?, ?, ?)"
  | .pendingMails _ =>
      "SELECT id, address, subject, content FROM mails WHERE mailed_at IS NULL "
        ++ "ORDER BY created_at LIMIT ?"
  | .insertMail _ _ =>
      "INSERT INTO mails (id, address, subject, content, mailed_at) "
        ++ "VALUES (?, ?, ?, ?, CASE WHEN ? THEN CURRENT_TIMESTAMP ELSE NULL END)"
  | .markSent ids =>
      "UPDATE mails SET mailed_at = CURRENT_TIMESTAMP WHERE id IN ("
        ++ ", ".intercalate (ids.map fun _ => "?") ++ ")"

/-- The bound values of a statement. -/
def binds : Statement → List Value
  | .beginTransaction | .commitTransaction | .rollbackTransaction | .ping | .migrate => []
  | .emailTaken email | .userByEmail email => [.text email]
  | .userById id | .activateUser id => [.text id.text]
  | .insertUser id u =>
      [.text id.text, .text u.name, .text u.email, .text u.passwordHash, .flag u.isActive]
  | .updatePassword id hash => [.text hash, .text id.text]
  | .findCredential _ token | .deleteCredential _ token => [.text token]
  | .insertCredential _ c => [.text c.token, .text c.userId.text]
  | .queueMail id m => [.text id.text, .text m.address, .text m.subject, .text m.content]
  | .pendingMails limit => [.number limit]
  | .insertMail id m =>
      [.text id.text, .text m.address, .text m.subject, .text m.content, .flag m.mailed]
  | .markSent ids => ids.map fun id => .text id.text

/-- The columns of a statement's result; none for one that gives no rows. -/
def columns : Statement → List String
  | .ping => ["1"]
  | .emailTaken _ => ["taken"]
  | .userById _ | .userByEmail _ => userColumns
  | .findCredential _ _ => ["token", "user_id"]
  | .pendingMails _ => ["id", "address", "subject", "content"]
  | _ => []

/-- Whether a statement is one of the writes of a business step. -/
def isWrite : Statement → Bool
  | .insertUser _ _ | .updatePassword _ _ | .activateUser _ | .insertCredential _ _
  | .deleteCredential _ _ | .queueMail _ _ | .insertMail _ _ | .markSent _ => true
  | _ => false

end Statement

end Gatehouse.MySql
