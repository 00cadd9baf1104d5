/-
  Gatehouse/Simulation/Rehearsal.lean --- collaborators that are played.

  The stores, the relay, the hasher and the signer are played by lists in memory.
  Each call is recorded, may take some time, and may be made to fail; only then it
  takes effect.  A write registers how it is undone.  Writes may also open a
  transaction, which is recorded but holds no data.

  Main definitions: `Rehearsal`, `Rehearsal.call`, and the instances that let the
  workflows run on it.
-/
import Gatehouse.Account.Service
import Gatehouse.Simulation.Labels
import Gatehouse.Simulation.Runtime

set_option autoImplicit false

namespace Gatehouse

/-! ## The state -/

/-- A failure that calls of one name are made to have. -/
structure PlannedFault where
  failure : Failure
  /-- How many calls pass before. -/
  skip : Nat
  /-- How many calls fail then; all of them when absent. -/
  times : Option Nat
  deriving Repr, Inhabited

/-- The failure that a call has, if any, and the plan after it. -/
def PlannedFault.next (f : PlannedFault) : Option Failure × PlannedFault :=
  match f.skip, f.times with
  | skip + 1, _ => (none, { f with skip })
  | 0, none => (some f.failure, f)
  | 0, some 0 => (none, f)
  | 0, some (times + 1) => (some f.failure, { f with times := some times })

/-- What a recorded call was made with. -/
inductive Argument where
  | text (s : String)
  | number (n : Nat)
  | flag (b : Bool)
  | user (u : User)
  | mail (m : Mail)
  | batch (mails : List Mail)
  deriving DecidableEq, Repr, Inhabited

/-- A recorded call. -/
structure Call where
  /-- When it was made, in milliseconds since the start. -/
  time : Nat
  name : String
  arguments : List Argument
  deriving DecidableEq, Repr, Inhabited

/-- The played collaborators. -/
structure Rehearsal where
  users : List User
  activations : List Credential
  recoveries : List Credential
  mails : List Mail
  revoked : List (String × Ttl)
  /-- How many users were made. -/
  userCount : Nat
  /-- How many mails were made. -/
  mailCount : Nat
  /-- Batches that are fetched before any stored mail. -/
  batches : List (List Mail)
  /-- The addresses that the relay refuses. -/
  refused : List String
  faults : List (String × PlannedFault)
  /-- How long calls take, by name. -/
  latency : List (String × Nat)
  labels : Labels
  /-- The recorded calls, the last first. -/
  calls : List Call
  signer : JwtSigner
  /-- Whether a saved user comes back without its id. -/
  dropsId : Bool
  /-- Whether queueing a mail registers a finishing action. -/
  finishesMails : Bool
  /-- Whether writes open a transaction. -/
  isTransactional : Bool
  deriving Inhabited

namespace Rehearsal

/-- Empty stores, with a signer. -/
def new (signer : JwtSigner) : Rehearsal :=
  { users := [], activations := [], recoveries := [], mails := [], revoked := [],
    userCount := 0, mailCount := 0, batches := [], refused := [], faults := [], latency := [],
    labels := .empty, calls := [], signer, dropsId := false, finishesMails := false,
    isTransactional := false }

/-- A played transaction: how many statements ran in it. -/
structure Transaction where
  statements : Nat
  deriving DecidableEq, Repr, Inhabited

/-- How a write is undone. -/
inductive Undo where
  /-- The user gets its earlier value back, or is removed. -/
  | user (writer : String) (id : Uuid) (earlier : Option User)
  /-- A saved credential is removed. -/
  | saved (kind : CredentialKind) (token : String)
  /-- A deleted credential is put back. -/
  | deleted (kind : CredentialKind) (credential : Credential)
  /-- A queued mail is removed. -/
  | queued (id : Uuid)
  deriving DecidableEq, Repr, Inhabited

/-- The name of the store of a kind of credentials. -/
def storeName : CredentialKind → String
  | .activation => "activations"
  | .recovery => "recoveries"

/-- The call that registered an undo action. -/
def Undo.writer : Undo → String
  | .user writer _ _ => writer
  | .saved kind _ => storeName kind ++ ".save"
  | .deleted kind _ => storeName kind ++ ".delete"
  | .queued _ => "mails.enqueue"

/-- What a played unit of work holds. -/
abbrev Kinds : UnitKinds := { Handle := Transaction, Undo := Undo, Finish := Unit }

/-- A run on played collaborators. -/
abbrev Run := Virtual Rehearsal

/-! ## Data -/

/-- The id of the `n`-th thing of a kind of things. -/
def numberedId (kind n : Nat) : Uuid :=
  ⟨BitVec.ofNat 128 (kind * 0x1000000000000000000000000 + 0x40008000000000000000 + n)⟩

/-- The pending credentials of a kind. -/
def credentials (w : Rehearsal) : CredentialKind → List Credential
  | .activation => w.activations
  | .recovery => w.recoveries

/-- The collaborators with other credentials of a kind. -/
def withCredentials (w : Rehearsal) (kind : CredentialKind) (cs : List Credential) :
    Rehearsal :=
  match kind with
  | .activation => { w with activations := cs }
  | .recovery => { w with recoveries := cs }

/-- The label of a kind of credentials. -/
def labelKind : CredentialKind → LabelKind
  | .activation => .activation
  | .recovery => .recovery

/-- The collaborators with one more user, who gets the next id unless it has one or
is to be left without. -/
def addUser (w : Rehearsal) (u : User) : Rehearsal := { w with users := w.users ++ [u] }

/-- The next id of a user. -/
def nextUserId (w : Rehearsal) : Uuid := numberedId 1 (w.userCount + 1)

/-- The next id of a mail. -/
def nextMailId (w : Rehearsal) : Uuid := numberedId 2 (w.mailCount + 1)

/-- The user with an id. -/
def userById? (w : Rehearsal) (id : Uuid) : Option User := w.users.find? fun u => u.id = some id

/-- The collaborators with a user in the place of the one with its id. -/
def putUser (w : Rehearsal) (id : Uuid) (u : User) : Rehearsal :=
  if (w.userById? id).isSome then
    { w with users := w.users.map fun v => if v.id = some id then u else v }
  else w.addUser u

/-- The collaborators without a user. -/
def removeUser (w : Rehearsal) (id : Uuid) : Rehearsal :=
  { w with users := w.users.filter fun u => u.id ≠ some id }

/-- The collaborators after an undo action. -/
def undo (w : Rehearsal) : Undo → Rehearsal
  | .user _ id none => w.removeUser id
  | .user _ id (some earlier) => w.putUser id earlier
  | .saved kind token =>
      w.withCredentials kind ((w.credentials kind).filter fun c => c.token ≠ token)
  | .deleted kind c => w.withCredentials kind (w.credentials kind ++ [c])
  | .queued id => { w with mails := w.mails.filter fun m => m.id ≠ some id }

/-- The collaborators after a batch was saved: a mail without an id is added, a sent
one with an id is marked. -/
def saveMail (w : Rehearsal) (m : Mail) : Rehearsal :=
  match m.id with
  | none =>
      { w with mails := w.mails ++ [{ m with id := some w.nextMailId }],
               mailCount := w.mailCount + 1 }
  | some id =>
      if m.mailed then
        { w with mails := w.mails.map fun n => if n.id = some id then n.markMailed else n }
      else w

/-! ## Calls -/

/-- The plan of failures with one of them changed, or taken out. -/
def setFault (w : Rehearsal) (name : String) (f : Option PlannedFault) : Rehearsal :=
  let others := w.faults.filter fun p => p.1 ≠ name
  { w with faults := match f with
      | some f => (name, f) :: others
      | none => others }

/-- Records a call. -/
def record (name : String) (arguments : List Argument) : Run Unit :=
  modify fun rt =>
    let call := { time := rt.elapsed, name, arguments }
    { rt with world := { rt.world with calls := call :: rt.world.calls } }

/-- Fails if a call of this name is due to fail. -/
def failIfDue (name : String) : ExceptT Failure Run Unit := do
  let w ← ExceptT.lift Virtual.world
  match w.faults.lookup name with
  | none => pure ()
  | some f =>
      let (failure, f) := f.next
      ExceptT.lift (Virtual.modifyWorld fun w => w.setFault name (some f))
      match failure with
      | some e => throw e
      | none => pure ()

/-- A call up to its effect: it is recorded, takes its time, and may fail. -/
def call (name : String) (arguments : List Argument) : ExceptT Failure Run Unit := do
  ExceptT.lift (record name arguments)
  let w ← ExceptT.lift Virtual.world
  match w.latency.lookup name with
  | some ms => ExceptT.lift (pause ms)
  | none => pure ()
  failIfDue name

/-- Reads the collaborators. -/
def world : ExceptT Failure Run Rehearsal := ExceptT.lift Virtual.world

/-- Changes the collaborators. -/
def change (f : Rehearsal → Rehearsal) : ExceptT Failure Run Unit :=
  ExceptT.lift (Virtual.modifyWorld f)

/-- Counts a statement in the transaction of a unit of work, which is opened first if
there is none. -/
def countStatement : Step Kinds Run Unit := do
  let w ← Step.lift world
  if w.isTransactional then do
    let u ← get
    let h ← match u.handle with
      | some h => pure h
      | none => do
          Step.lift (call "tx.begin" [])
          pure ⟨0⟩
    set { u with handle := some { h with statements := h.statements + 1 } }
  else pure ()

/-- A call that writes, up to its effect. -/
def writeCall (name : String) (arguments : List Argument) : Step Kinds Run Unit := do
  Step.lift (call name arguments)
  countStatement

/-- Registers an undo action. -/
def undoLater (a : Undo) : Step Kinds Run Unit := modify fun u => u.addUndo a

instance : UnitActions Run Kinds where
  commitHandle h := (call "tx.commit" [.number h.statements]).run
  rollbackHandle h := (call "tx.rollback" [.number h.statements]).run
  runUndo a := do
    record "undo" [.text a.writer]
    Virtual.modifyWorld fun w => w.undo a
  runFinish _ := (call "mails.finalize" []).run

/-! ## Collaborators -/

instance : UserStore Run Kinds where
  existsByEmail email := do
    call "users.exists_by_email" [.text email]
    return (← world).users.any fun u => u.email == email
  findById id := do
    call "users.find_by_id" [.text id.text]
    return (← world).userById? id
  findByEmail email := do
    call "users.find_by_email" [.text email]
    return (← world).users.find? fun u => u.email == email
  save u := do
    writeCall "users.save" [.user u]
    let w ← Step.lift world
    let id := u.id.getD w.nextUserId
    let stored := { u with id := some id }
    Step.lift (change fun w =>
      { w.putUser id stored with
        userCount := if u.id.isNone then w.userCount + 1 else w.userCount })
    undoLater (.user "users.save" id (w.userById? id))
    pure (if w.dropsId then { stored with id := none } else stored)
  activate id := do
    writeCall "users.activate" [.text id.text]
    let w ← Step.lift world
    match w.userById? id with
    | none => throw (.internal ("no user with id " ++ id.text))
    | some u => do
        Step.lift (change fun w => w.putUser id { u with isActive := true })
        undoLater (.user "users.activate" id (some u))

/-- Whether a text has the form of a generated credential token. -/
def isCredentialToken (token : String) : Bool :=
  token.length = Credential.tokenLength && token.toList.all Char.isAlphanum

instance : CredentialStore Run Kinds where
  find kind token := do
    call (storeName kind ++ ".find_by_token") [.text token]
    return ((← world).credentials kind).find? fun c => c.token == token
  save kind c := do
    Step.lift (change fun w => { w with labels := w.labels.add (labelKind kind) c.token })
    writeCall (storeName kind ++ ".save")
      [.text c.token, .text c.userId.text, .flag (isCredentialToken c.token)]
    Step.lift (change fun w => w.withCredentials kind (w.credentials kind ++ [c]))
    undoLater (.saved kind c.token)
  delete kind token := do
    writeCall (storeName kind ++ ".delete") [.text token]
    let w ← Step.lift world
    match (w.credentials kind).find? fun c => c.token == token with
    | none => pure ()
    | some c => do
        Step.lift (change fun w => w.withCredentials kind ((w.credentials kind).erase c))
        undoLater (.deleted kind c)

instance : MailQueue Run Kinds where
  enqueue m := do
    writeCall "mails.enqueue" [.mail m]
    let w ← Step.lift world
    let id := w.nextMailId
    Step.lift (change fun w =>
      { w with mails := w.mails ++ [{ m with id := some id }], mailCount := w.mailCount + 1 })
    undoLater (.queued id)
    if w.finishesMails then modify fun u => u.addFinish () else pure ()

instance : Outbox Run where
  findPending limit := ExceptT.run do
    call "mails.find_pending" [.number limit]
    let w ← world
    match w.batches with
    | batch :: rest => do
        change fun w => { w with batches := rest }
        pure batch
    | [] => pure ((w.mails.filter fun m => !m.mailed).take limit)
  saveBatch mails := ExceptT.run do
    call "mails.save" [.batch mails]
    change fun w => mails.foldl saveMail w

instance : MailTransport Run where
  send address subject body := ExceptT.run do
    call "transport.send" [.text address, .text subject, .text body]
    if (← world).refused.contains address then throw (.internal ("relay refused " ++ address))
    else pure ()

/-- The played hash of a password. -/
def playedHash (password : String) : String := "hashed:" ++ password

instance : PasswordHasher Run where
  hash password := do
    call "hasher.hash" [.text password]
    pure (playedHash password)
  verify password hash := do
    call "hasher.verify" [.text password, .text hash]
    pure (hash == playedHash password)

instance : RevocationStore Run where
  put token ttl := do
    call "revocations.put" [.text token, .number (ttl.millis % 0x10000000000000000)]
    change fun w =>
      { w with revoked := (w.revoked.filter fun r => r.1 ≠ token) ++ [(token, ttl)] }
  denies token := do
    call "revocations.exists" [.text token]
    return (← world).revoked.any fun r => r.1 == token

/-- The label of tokens of a kind. -/
def tokenLabel : TokenKind → LabelKind
  | .access => .access
  | .refresh => .refresh

instance : TokenSigner Run where
  sign claims := do
    ExceptT.lift (record "signer.sign" [.text claims.typ.name])
    failIfDue "signer.sign"
    let w ← world
    let token := w.signer.sign claims
    change fun w => { w with labels := w.labels.add (tokenLabel claims.typ) token }
    pure token
  verify token := do
    ExceptT.lift (record "signer.verify" [.text token])
    failIfDue "signer.verify"
    (← world).signer.verify token

end Rehearsal

end Gatehouse
