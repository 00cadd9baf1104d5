/-
  Gatehouse/MySql/Stores.lean --- users, credentials and mails in the database.

  Reads take any connection of the pool; writes run in the transaction of the unit
  of work.  Saving a batch of the outbox has a transaction of its own.

  Main definitions: the instances of `UserStore`, `CredentialStore`, `MailQueue` and
  `Outbox`.
-/
import Gatehouse.MySql.Transaction
import Gatehouse.Text.Search

set_option autoImplicit false

namespace Gatehouse.MySql

/-! ## Reading rows -/

/-- The failure of reading a column. -/
def failedToGet {α : Type} (column : String) (r : Except RowFault α) : Except Failure α :=
  r.mapError fun e => .internal ("Failed to get " ++ column ++ ": " ++ e.message)

/-- Reads an id. -/
def parseId (s : String) : Except Failure Uuid :=
  (Uuid.parse s).mapError fun e => .internal ("Invalid UUID '" ++ s ++ "': " ++ e.message)

/-- Reads a text of a row. -/
def textOf (row : Row) (column : String) : Except Failure String :=
  failedToGet column (row.text column)

/-- Reads a user. -/
def userOf (row : Row) : Except Failure User := do
  let id ← textOf row "id"
  let id ← parseId id
  let name ← textOf row "name"
  let email ← textOf row "email"
  let passwordHash ← textOf row "password_hash"
  let isActive ← failedToGet "is_active" (row.flag "is_active")
  pure { id := some id, name, email, passwordHash, isActive }

/-- Reads a credential. -/
def credentialOf (row : Row) : Except Failure Credential := do
  let user ← textOf row "user_id"
  let token ← textOf row "token"
  let userId ← parseId user
  pure { token, userId }

/-- Reads a mail, which is pending. -/
def mailOf (row : Row) : Except Failure Mail := do
  let id ← textOf row "id"
  let id ← parseId id
  let address ← textOf row "address"
  let subject ← textOf row "subject"
  let content ← textOf row "content"
  pure { id := some id, address, subject, content, mailed := false }

/-! ## Stores -/

section

variable {m : Type → Type} [Monad m] [MonadLog m] [MonadRandom m] [MonadDatabase m]

/-- The rows of a query. -/
def query (action : String) (s : Statement) : ExceptT Failure m (List Row) := do
  match ← ExceptT.lift (sendToPool s) with
  | .error f => throw (failedBy action f)
  | .ok reply =>
      match reply.rowsOr with
      | .ok rows => pure rows
      | .error e => throw (failedTo action e)

/-- The first row of a query, read. -/
def queryFirst {α : Type} (action : String) (s : Statement) (read : Row → Except Failure α) :
    ExceptT Failure m (Option α) := do
  match ← query action s with
  | [] => pure none
  | row :: _ => ExceptT.mk (pure ((read row).map some))

/-- The failure of inserting a user: one who lost a race for an address is told that
the address is taken. -/
def insertUserFailure (e : DatabaseError) : Failure :=
  if e.code = 1062 ∧ Text.contains "uq_users_email".toList e.message.toList then
    .auth .emailAlreadyTaken
  else failedTo "insert user" e

/-- Inserts a user under a new id. -/
def insertUser (u : User) : Step Kinds m User := do
  let c ← transaction
  let id ← Step.lift (ExceptT.lift freshId)
  match ← Step.lift (ExceptT.lift (execute c (.insertUser id u))) with
  | .ok _ => pure { u with id := some id }
  | .error e => throw (insertUserFailure e)

instance : UserStore m Kinds where
  existsByEmail email := do
    match ← query "check email" (.emailTaken email) with
    | [] => throw (.internal ("Failed to check email: " ++ RowFault.noRow.message))
    | row :: _ => ExceptT.mk (pure (failedToGet "taken" (row.flag "taken")))
  findById id := queryFirst "query users" (.userById id) userOf
  findByEmail email := queryFirst "query users" (.userByEmail email) userOf
  save u :=
    match u.id with
    | none => insertUser u
    | some id => do
        let _ ← write "update user" (.updatePassword id u.passwordHash)
        pure u
  activate id := do
    let n ← write "activate user" (.activateUser id)
    if n = 0 then
      throw (.internal ("Failed to activate user: no user with id " ++ id.text))
    else pure ()

/-- What a kind of credentials is called in failures. -/
def credentialName : CredentialKind → String
  | .activation => "activation"
  | .recovery => "password recovery"

instance : CredentialStore m Kinds where
  find kind token :=
    queryFirst ("query " ++ credentialName kind) (.findCredential kind token) credentialOf
  save kind c := do
    let _ ← write ("insert " ++ credentialName kind) (.insertCredential kind c)
  delete kind token := do
    let _ ← write ("delete " ++ credentialName kind) (.deleteCredential kind token)

instance : MailQueue m Kinds where
  enqueue mail := do
    let c ← transaction
    let id ← Step.lift (ExceptT.lift freshId)
    match ← Step.lift (ExceptT.lift (execute c (.queueMail id mail))) with
    | .ok _ => pure ()
    | .error e => throw (failedTo "queue mail" e)

/-! ## The outbox -/

/-- Sends a statement of a batch in its transaction, which is let go on an error. -/
def batchStatement (c : Connection) (action : String) (s : Statement) :
    ExceptT Failure m Unit := do
  match ← ExceptT.lift (execute c s) with
  | .ok _ => pure ()
  | .error e => do
      ExceptT.lift (abandon c)
      throw (failedTo action e)

/-- Inserts the mails that have no id. -/
def insertMails (c : Connection) : List Mail → ExceptT Failure m Unit
  | [] => pure ()
  | mail :: rest => do
      let id ← ExceptT.lift freshId
      batchStatement c "insert mail" (.insertMail id mail)
      insertMails c rest

/-- The ids of the stored mails that were sent. -/
def sentIds (mails : List Mail) : List Uuid := (mails.filter Mail.mailed).filterMap Mail.id

instance : Outbox m where
  findPending limit := ExceptT.run do
    let rows ← query "fetch pending mails" (.pendingMails limit)
    ExceptT.mk (pure (rows.mapM mailOf))
  saveBatch mails := ExceptT.run do
    match ← ExceptT.lift openTransaction with
    | .error f => throw (failedBy "begin mail save" f)
    | .ok c => do
        insertMails c (mails.filter fun mail => !mail.isStored)
        if (sentIds mails).isEmpty then pure ()
        else batchStatement c "mark mails sent" (.markSent (sentIds mails))
        match ← ExceptT.lift (finish c .commitTransaction) with
        | .ok () => pure ()
        | .error e => throw (failedTo "commit mail save" e)

end

end Gatehouse.MySql
