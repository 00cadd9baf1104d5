/-
  Gatehouse/Store/Memory.lean --- stores kept in memory.

  Users are kept by their id, credentials by their token, and mails in the order in
  which they were queued.  A write takes effect at once and says how it is undone.
  Any of the stores may be out of order, and then the write or read fails and changes
  nothing.

  Main definitions: `Memory`, its reads and writes, `Memory.undo`, `Memory.fetch` and
  `Memory.saveBatch`.
-/
import Gatehouse.Account.Service
import Gatehouse.Store.Table

set_option autoImplicit false

namespace Gatehouse

/-! ## The state -/

/-- Which stores are out of order. -/
structure Outages where
  userReads : Bool
  userSaves : Bool
  activationSaves : Bool
  activationDeletes : Bool
  recoverySaves : Bool
  mailQueue : Bool
  /-- Whether each of the coming saves of a batch fails, the next one first. -/
  batchSaves : List Bool
  deriving DecidableEq, Repr, Inhabited

/-- Everything works. -/
def Outages.none : Outages :=
  { userReads := false, userSaves := false, activationSaves := false,
    activationDeletes := false, recoverySaves := false, mailQueue := false, batchSaves := [] }

/-- The stores. -/
structure Memory where
  users : Table Uuid User
  activations : Table String Credential
  recoveries : Table String Credential
  mails : List Mail
  /-- Batches that are fetched before any kept mail. -/
  batches : List (List Mail)
  /-- The batches that were to be saved, in order. -/
  saves : List (List Mail)
  /-- How many times a batch was fetched. -/
  fetches : Nat
  outages : Outages
  deriving DecidableEq, Inhabited

namespace Memory

/-- Empty stores that work. -/
def empty : Memory :=
  { users := .empty, activations := .empty, recoveries := .empty, mails := [], batches := [],
    saves := [], fetches := 0, outages := .none }

/-- The pending credentials of a kind. -/
def credentials (s : Memory) : CredentialKind → Table String Credential
  | .activation => s.activations
  | .recovery => s.recoveries

/-- The stores with other credentials of a kind. -/
def withCredentials (s : Memory) (kind : CredentialKind) (t : Table String Credential) :
    Memory :=
  match kind with
  | .activation => { s with activations := t }
  | .recovery => { s with recoveries := t }

/-! ## Failures -/

def userReadFailure : Failure := .internal "Failed to query users: connection reset"

def userSaveFailure : Failure := .internal "Failed to save user: deadlock"

def unknownUserFailure : Failure := .internal "Failed to activate user: no row updated"

/-- The failure of keeping a credential. -/
def credentialSaveFailure : CredentialKind → Failure
  | .activation => .internal "Failed to save activation: duplicate key"
  | .recovery => .internal "Failed to save password recovery: disk full"

def activationDeleteFailure : Failure := .internal "Failed to delete activation: lock timeout"

def queueFailure : Failure := .internal "Failed to insert mail: disk full"

def batchSaveFailure : Failure := .internal "Failed to save mails: connection lost"

/-- Whether credentials of a kind cannot be kept. -/
def cannotSave (s : Memory) : CredentialKind → Bool
  | .activation => s.outages.activationSaves
  | .recovery => s.outages.recoverySaves

/-- Whether credentials of a kind cannot be removed; recoveries always can. -/
def cannotDelete (s : Memory) : CredentialKind → Bool
  | .activation => s.outages.activationDeletes
  | .recovery => false

/-! ## Undoing -/

/-- How a write is undone. -/
inductive Undo where
  /-- The user gets its earlier value back, or is removed. -/
  | user (id : Uuid) (earlier : Option User)
  /-- A saved credential is removed. -/
  | saved (kind : CredentialKind) (token : String)
  /-- A deleted credential is put back. -/
  | deleted (kind : CredentialKind) (credential : Credential)
  /-- A queued mail is removed. -/
  | queued (id : Uuid)
  deriving DecidableEq, Repr, Inhabited

/-- Undoes a write. -/
def undo (s : Memory) : Undo → Memory
  | .user id (some u) => { s with users := s.users.insert id u }
  | .user id none => { s with users := s.users.erase id }
  | .saved kind token => s.withCredentials kind ((s.credentials kind).erase token)
  | .deleted kind c => s.withCredentials kind ((s.credentials kind).insert c.token c)
  | .queued id => { s with mails := s.mails.filter fun m => m.id ≠ some id }

/-- A write that took effect: its result, the stores after it, and how it is undone,
none when it changed nothing. -/
structure Written (α : Type) where
  value : α
  memory : Memory
  undo : Option Undo

/-! ## Users -/

/-- What was read from the users. -/
def readUsers {α : Type} (s : Memory) (value : α) : Except Failure α :=
  if s.outages.userReads then .error userReadFailure else .ok value

def existsByEmail (s : Memory) (email : String) : Except Failure Bool :=
  s.readUsers (s.users.values.any fun u => u.email == email)

def findById (s : Memory) (id : Uuid) : Except Failure (Option User) :=
  s.readUsers (s.users.get? id)

/-- The user with an address; of several the one whose id comes first. -/
def findByEmail (s : Memory) (email : String) : Except Failure (Option User) :=
  s.readUsers (s.users.values.find? fun u => u.email == email)

/-- Keeps a user under its id, in the place of an earlier value; a user without an id
gets the fresh one. -/
def insertUser (s : Memory) (fresh : Uuid) (u : User) : User × Memory :=
  let id := u.id.getD fresh
  let stored := { u with id := some id }
  (stored, { s with users := s.users.insert id stored })

def saveUser (s : Memory) (fresh : Uuid) (u : User) : Except Failure (Written User) :=
  if s.outages.userSaves then .error userSaveFailure
  else
    let (stored, memory) := s.insertUser fresh u
    let id := u.id.getD fresh
    .ok { value := stored, memory, undo := some (.user id (s.users.get? id)) }

def activateUser (s : Memory) (id : Uuid) : Except Failure (Written Unit) :=
  match s.users.get? id with
  | none => .error unknownUserFailure
  | some u =>
      .ok { value := ()
            memory := { s with users := s.users.insert id { u with isActive := true } }
            undo := some (.user id (some u)) }

/-! ## Credentials -/

def findCredential (s : Memory) (kind : CredentialKind) (token : String) : Option Credential :=
  (s.credentials kind).get? token

def saveCredential (s : Memory) (kind : CredentialKind) (c : Credential) :
    Except Failure (Written Unit) :=
  if s.cannotSave kind then .error (credentialSaveFailure kind)
  else
    .ok { value := ()
          memory := s.withCredentials kind ((s.credentials kind).insert c.token c)
          undo := some (.saved kind c.token) }

def deleteCredential (s : Memory) (kind : CredentialKind) (token : String) :
    Except Failure (Written Unit) :=
  if s.cannotDelete kind then .error activationDeleteFailure
  else
    match (s.credentials kind).get? token with
    | none => .ok { value := (), memory := s, undo := none }
    | some c =>
        .ok { value := ()
              memory := s.withCredentials kind ((s.credentials kind).erase token)
              undo := some (.deleted kind c) }

/-! ## Mails -/

/-- Queues a mail under the fresh id. -/
def enqueue (s : Memory) (fresh : Uuid) (m : Mail) : Except Failure (Written Unit) :=
  if s.outages.mailQueue then .error queueFailure
  else
    .ok { value := (), memory := { s with mails := s.mails ++ [{ m with id := some fresh }] },
          undo := some (.queued fresh) }

/-- Takes the next planned batch, else up to `limit` mails that are not delivered. -/
def fetch (s : Memory) (limit : Nat) : List Mail × Memory :=
  match s.batches with
  | batch :: rest => (batch, { s with batches := rest, fetches := s.fetches + 1 })
  | [] => ((s.mails.filter fun m => !m.mailed).take limit, { s with fetches := s.fetches + 1 })

/-- Marks the first mail with an id. -/
def markMailed (id : Uuid) : List Mail → List Mail
  | [] => []
  | m :: rest => if m.id = some id then m.markMailed :: rest else m :: markMailed id rest

/-- Keeps a mail of a batch: one without an id is added under the fresh one, a
delivered one is marked, and any other is left as it is. -/
def saveMail (mails : List Mail) (m : Mail) (fresh : Uuid) : List Mail :=
  match m.id with
  | none => mails ++ [{ m with id := some fresh }]
  | some id => if m.mailed then markMailed id mails else mails

/-- Keeps a batch, with a fresh id for each of its mails. -/
def saveBatch (s : Memory) (fresh : List Uuid) (batch : List Mail) :
    Except Failure Unit × Memory :=
  let noted := { s with saves := s.saves ++ [batch],
                        outages := { s.outages with batchSaves := s.outages.batchSaves.tail } }
  if s.outages.batchSaves.head? = some true then (.error batchSaveFailure, noted)
  else
    let mails := (batch.zip fresh).foldl (fun l p => saveMail l p.1 p.2) s.mails
    (.ok (), { noted with mails })

end Memory

end Gatehouse
