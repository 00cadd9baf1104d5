/-
  Gatehouse/Proofs/Store/Writes.lean --- what a write to the stores in memory does.

  A write that succeeds has one form: the stores after it, and how it is undone, are
  given by the stores before it.  Nothing else about a write is used elsewhere.

  Main definition: `UsersInOrder`.
  Main statements: `Memory.saveUser_ok`, `Memory.activateUser_ok`,
  `Memory.saveCredential_ok`, `Memory.deleteCredential_ok`, `Memory.enqueue_ok`; what is kept
  can be changed, by `Memory.saveUser_kept` and its like; and for the writes that workflows
  undo, `Memory.undo_keepUser`, `Memory.undo_keep`.
-/
import Gatehouse.Proofs.Store.Table
import Gatehouse.Store.Memory

set_option autoImplicit false

namespace Gatehouse

/-- The id under which a user is kept, given the id for a user without one. -/
def User.keptId (u : User) (fresh : Uuid) : Uuid := u.id.getD fresh

/-- The form in which a user is kept. -/
def User.kept (u : User) (fresh : Uuid) : User := { u with id := some (u.keptId fresh) }

@[simp] theorem User.keptId_new (name email hash : String) (fresh : Uuid) :
    (User.new name email hash).keptId fresh = fresh := rfl

/-! ## Users in order -/

/-- Whether users are kept under their own ids and no address has two of them. -/
structure UsersInOrder (users : Table Uuid User) : Prop where
  /-- Each user is kept under its own id. -/
  named : ∀ {id u}, users.get? id = some u → u.id = some id
  /-- No address has two users. -/
  unique : ∀ {id j u v}, users.get? id = some u → users.get? j = some v → u.email = v.email →
    id = j

namespace UsersInOrder

variable {users : Table Uuid User}

theorem empty : UsersInOrder .empty where
  named h := nomatch h
  unique h := nomatch h

/-- A new user under a free address. -/
theorem register (h : UsersInOrder users) {id : Uuid} {user : User}
    (free : ∀ {j u}, users.get? j = some u → u.email ≠ user.email) (hid : user.id = some id) :
    UsersInOrder (users.insert id user) where
  named := by
    intro j u hu
    rw [Table.get?_insert] at hu
    split at hu
    · rename_i same
      rw [← Option.some.inj hu, hid, same]
    · exact h.named hu
  unique := by
    intro j k u v hu hv same
    rw [Table.get?_insert] at hu hv
    split at hu <;> split at hv
    · rename_i hj hk
      rw [hj, hk]
    · rw [← Option.some.inj hu] at same
      exact absurd same.symm (free hv)
    · rw [← Option.some.inj hv] at same
      exact absurd same (free hu)
    · exact h.unique hu hv same

/-- Where another value of a user is kept, every value stands for an earlier one with its
id and its address. -/
theorem earlier {id j : Uuid} {old new u : User} (known : users.get? id = some old)
    (hid : new.id = old.id) (hemail : new.email = old.email)
    (hu : (users.insert id new).get? j = some u) :
    ∃ v, users.get? j = some v ∧ u.id = v.id ∧ u.email = v.email := by
  rw [Table.get?_insert] at hu
  split at hu
  · rename_i same
    rw [same, ← Option.some.inj hu]
    exact ⟨old, known, hid, hemail⟩
  · exact ⟨u, hu, rfl, rfl⟩

/-- Another value of a user, with its id and its address. -/
theorem replace (h : UsersInOrder users) {id : Uuid} {old new : User}
    (known : users.get? id = some old) (hid : new.id = old.id) (hemail : new.email = old.email) :
    UsersInOrder (users.insert id new) where
  named := by
    intro j u hu
    obtain ⟨v, hv, sameId, -⟩ := earlier known hid hemail hu
    rw [sameId]
    exact h.named hv
  unique := by
    intro j k u v hu hv same
    obtain ⟨u', hu', -, hemailu⟩ := earlier known hid hemail hu
    obtain ⟨v', hv', -, hemailv⟩ := earlier known hid hemail hv
    exact h.unique hu' hv' (by rw [← hemailu, ← hemailv, same])

end UsersInOrder

/-! ## Forms of a write -/

/-- The stores with a user kept under an id. -/
def Memory.keepUser (s : Memory) (id : Uuid) (u : User) : Memory :=
  { s with users := s.users.insert id u }

/-- The stores with a credential kept under its token. -/
def Memory.keep (s : Memory) (kind : CredentialKind) (c : Credential) : Memory :=
  s.withCredentials kind ((s.credentials kind).insert c.token c)

/-- The stores without the credential of a token. -/
def Memory.remove (s : Memory) (kind : CredentialKind) (token : String) : Memory :=
  s.withCredentials kind ((s.credentials kind).erase token)

/-- The stores with one more mail in the queue. -/
def Memory.queue (s : Memory) (m : Mail) : Memory := { s with mails := s.mails ++ [m] }

namespace Memory

variable {s : Memory}

theorem credentials_keepUser (id : Uuid) (u : User) (kind : CredentialKind) :
    (s.keepUser id u).credentials kind = s.credentials kind := by
  cases kind <;> rfl

theorem credentials_queue (m : Mail) (kind : CredentialKind) :
    (s.queue m).credentials kind = s.credentials kind := by
  cases kind <;> rfl

@[simp] theorem credentials_withCredentials_self (kind : CredentialKind)
    (t : Table String Credential) : (s.withCredentials kind t).credentials kind = t := by
  cases kind <;> rfl

theorem credentials_withCredentials_of_ne {kind other : CredentialKind}
    (t : Table String Credential) (h : other ≠ kind) :
    (s.withCredentials kind t).credentials other = s.credentials other := by
  cases kind <;> cases other <;> first | rfl | exact absurd rfl h

@[simp] theorem withCredentials_users (kind : CredentialKind) (t : Table String Credential) :
    (s.withCredentials kind t).users = s.users := by
  cases kind <;> rfl

@[simp] theorem withCredentials_twice (kind : CredentialKind) (t r : Table String Credential) :
    (s.withCredentials kind t).withCredentials kind r = s.withCredentials kind r := by
  cases kind <;> rfl

@[simp] theorem withCredentials_same (kind : CredentialKind) :
    s.withCredentials kind (s.credentials kind) = s := by
  cases kind <;> rfl

@[simp] theorem keepUser_users (id : Uuid) (u : User) :
    (s.keepUser id u).users = s.users.insert id u := rfl

@[simp] theorem keep_users (kind : CredentialKind) (c : Credential) :
    (s.keep kind c).users = s.users :=
  withCredentials_users _ _

@[simp] theorem remove_users (kind : CredentialKind) (token : String) :
    (s.remove kind token).users = s.users :=
  withCredentials_users _ _

/-- Of the credentials that are kept after one more is kept, only that one is new. -/
theorem kept_of_keep {kind other : CredentialKind} {c d : Credential} {token : String}
    (h : ((s.keep kind c).credentials other).get? token = some d) :
    (s.credentials other).get? token = some d ∨ d = c ∧ c.token = token := by
  by_cases same : other = kind
  · subst same
    rw [keep, credentials_withCredentials_self, Table.get?_insert] at h
    split at h
    · rename_i htoken
      exact Or.inr ⟨(Option.some.inj h).symm, htoken.symm⟩
    · exact Or.inl h
  · rw [keep, credentials_withCredentials_of_ne _ same] at h
    exact Or.inl h

/-- The credentials that are kept after one was removed were kept before. -/
theorem kept_of_remove {kind other : CredentialKind} {d : Credential} {removed token : String}
    (h : ((s.remove kind removed).credentials other).get? token = some d) :
    (s.credentials other).get? token = some d := by
  by_cases same : other = kind
  · subst same
    rw [remove, credentials_withCredentials_self, Table.get?_erase] at h
    split at h
    · exact nomatch h
    · exact h
  · rw [remove, credentials_withCredentials_of_ne _ same] at h
    exact h

@[simp] theorem queue_users (m : Mail) : (s.queue m).users = s.users := rfl

/-! ## Reads -/

theorem readUsers_ok {α : Type} {value a : α} (h : s.readUsers value = .ok a) : a = value := by
  unfold readUsers at h
  split at h
  · cases h
  · exact (Except.ok.inj h).symm

theorem findById_ok {id : Uuid} {found : Option User} (h : s.findById id = .ok found) :
    s.users.get? id = found := (readUsers_ok h).symm

/-- An address is free when no user has it. -/
theorem existsByEmail_false {email : String} (h : s.existsByEmail email = .ok false) {id : Uuid}
    {u : User} (hu : s.users.get? id = some u) : u.email ≠ email := by
  intro same
  have hnone := readUsers_ok h
  rw [eq_comm, List.any_eq_false] at hnone
  exact hnone u (Table.mem_values_iff.2 ⟨id, hu⟩) (beq_iff_eq.2 same)

/-- The user that is found by an address is kept and has it. -/
theorem findByEmail_some {email : String} {u : User} (h : s.findByEmail email = .ok (some u)) :
    u.email = email ∧ ∃ id, s.users.get? id = some u := by
  have hfind := (readUsers_ok h).symm
  have hemail : (u.email == email) = true := by
    simpa using List.find?_some hfind
  exact ⟨beq_iff_eq.1 hemail, Table.mem_values_iff.1 (List.mem_of_find?_eq_some hfind)⟩

/-- A user that is kept is found by its address, or another one that has it. -/
theorem findByEmail_of_kept (reads : s.outages.userReads = false) {id : Uuid} {u : User}
    (hu : s.users.get? id = some u) : ∃ v, s.findByEmail u.email = .ok (some v) := by
  unfold findByEmail readUsers
  rw [reads]
  cases hfind : s.users.values.find? fun v => v.email == u.email with
  | none =>
    have hnone := List.find?_eq_none.1 hfind u (Table.mem_values_iff.2 ⟨id, hu⟩)
    exact absurd (beq_iff_eq.2 rfl) hnone
  | some v => exact ⟨v, rfl⟩

/-! ## Writes -/

/-- A saved user replaces whatever was kept under its id. -/
theorem saveUser_ok {fresh : Uuid} {u : User} {w : Written User}
    (h : s.saveUser fresh u = .ok w) :
    w = { value := u.kept fresh
          memory := s.keepUser (u.keptId fresh) (u.kept fresh)
          undo := some (.user (u.keptId fresh) (s.users.get? (u.keptId fresh))) } := by
  unfold saveUser at h
  split at h
  · cases h
  · exact (Except.ok.inj h).symm

/-- Only a user that is kept is activated. -/
theorem activateUser_ok {id : Uuid} {w : Written Unit} (h : s.activateUser id = .ok w) :
    ∃ u, s.users.get? id = some u
      ∧ w = { value := ()
              memory := s.keepUser id { u with isActive := true }
              undo := some (.user id (some u)) } := by
  unfold activateUser at h
  split at h
  · cases h
  · rename_i u hu
    exact ⟨u, hu, (Except.ok.inj h).symm⟩

theorem saveCredential_ok {kind : CredentialKind} {c : Credential} {w : Written Unit}
    (h : s.saveCredential kind c = .ok w) :
    w = { value := (), memory := s.keep kind c, undo := some (.saved kind c.token) } := by
  unfold saveCredential at h
  split at h
  · cases h
  · exact (Except.ok.inj h).symm

/-- A credential that is not there is deleted without effect. -/
theorem deleteCredential_ok {kind : CredentialKind} {token : String} {w : Written Unit}
    (h : s.deleteCredential kind token = .ok w) :
    ((s.credentials kind).get? token = none ∧ w = { value := (), memory := s, undo := none })
      ∨ ∃ c, (s.credentials kind).get? token = some c
          ∧ w = { value := ()
                  memory := s.remove kind token
                  undo := some (.deleted kind c) } := by
  unfold deleteCredential at h
  split at h
  · cases h
  · split at h
    · rename_i hnone
      exact Or.inl ⟨hnone, (Except.ok.inj h).symm⟩
    · rename_i c hc
      exact Or.inr ⟨c, hc, (Except.ok.inj h).symm⟩

/-- Only activations may fail to be removed. -/
theorem deleteCredential_recovery (token : String) :
    ∃ w, s.deleteCredential .recovery token = .ok w := by
  unfold deleteCredential
  rw [if_neg (by simp [cannotDelete])]
  split
  · exact ⟨_, rfl⟩
  · exact ⟨_, rfl⟩

theorem enqueue_ok {fresh : Uuid} {m : Mail} {w : Written Unit} (h : s.enqueue fresh m = .ok w) :
    w = { value := ()
          memory := s.queue { m with id := some fresh }
          undo := some (.queued fresh) } := by
  unfold enqueue at h
  split at h
  · cases h
  · exact (Except.ok.inj h).symm

/-! ## Writes that succeed -/

/-- A user that is kept is activated. -/
theorem activateUser_kept {id : Uuid} {u : User} (known : s.users.get? id = some u) :
    s.activateUser id
      = .ok { value := ()
              memory := s.keepUser id { u with isActive := true }
              undo := some (.user id (some u)) } := by
  unfold activateUser
  rw [known]
  rfl

/-- A user that is kept already is saved under its own id. -/
theorem saveUser_kept (works : s.outages.userSaves = false) (fresh : Uuid) {id : Uuid} {u : User}
    (named : u.id = some id) :
    s.saveUser fresh u
      = .ok { value := u
              memory := s.keepUser id u
              undo := some (.user id (s.users.get? id)) } := by
  have hkept : { u with id := some id } = u := by
    rw [← named]
  unfold saveUser insertUser keepUser
  simp only [works, named, Option.getD_some, hkept, Bool.false_eq_true, if_false]

/-- A credential that is kept is deleted. -/
theorem deleteCredential_kept {kind : CredentialKind} (works : s.cannotDelete kind = false)
    {token : String} {c : Credential} (found : (s.credentials kind).get? token = some c) :
    s.deleteCredential kind token
      = .ok { value := ()
              memory := s.remove kind token
              undo := some (.deleted kind c) } := by
  unfold deleteCredential
  rw [works, found]
  rfl

/-! ## Undoing one write -/

/-- Undoing a write of a user brings back what was kept under its id. -/
theorem undo_keepUser (s : Memory) (id : Uuid) (u : User) :
    (s.keepUser id u).undo (.user id (s.users.get? id)) = s := by
  cases hget : s.users.get? id with
  | none => simp only [keepUser, undo, Table.erase_insert _ hget]
  | some v => simp only [keepUser, undo, Table.insert_restores _ hget]

/-- Undoing the save of a credential removes it, which brings the stores back if its
token was not in use. -/
theorem undo_keep {kind : CredentialKind} (c : Credential)
    (h : (s.credentials kind).get? c.token = none) :
    (s.keep kind c).undo (.saved kind c.token) = s := by
  simp only [undo, keep, credentials_withCredentials_self, Table.erase_insert _ h,
    withCredentials_twice, withCredentials_same]

/-- Undoing a write of a user and keeping a credential do not meet. -/
theorem undo_user_keep (kind : CredentialKind) (c : Credential) (id : Uuid)
    (earlier : Option User) :
    (s.keep kind c).undo (.user id earlier) = (s.undo (.user id earlier)).keep kind c := by
  cases kind <;> cases earlier <;> rfl

/-- A user and a credential of an unused token are undone in the order in which they were
kept. -/
theorem undo_user_then_keep {id : Uuid} {u : User} {kind : CredentialKind} (c : Credential)
    (h : (s.credentials kind).get? c.token = none) :
    (((s.keepUser id u).keep kind c).undo (.user id (s.users.get? id))).undo
      (.saved kind c.token) = s := by
  rw [undo_user_keep, undo_keepUser, undo_keep c h]

end Memory

end Gatehouse
