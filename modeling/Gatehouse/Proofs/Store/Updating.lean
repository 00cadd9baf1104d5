/-
  Gatehouse/Proofs/Store/Updating.lean --- saving a user that has an id.

  By the contract of the store of users a stored user has its password hash updated, and
  nothing else.  The database is sent one statement that sets that column, so it keeps the
  contract for every value of a user.  The store in memory keeps the value itself.  It does
  what the database does only when that value is the stored one but for its password; a value
  that was read before an activation takes the activation back, and one whose id is not
  stored is added.

  Main definitions: `Updates`, `MySql.passwordUpdated`, `Memory.IsCurrent`.
  Main statements: `MySql.updates_passwordUpdated`, `Memory.updates_keepUser_iff`,
  `Memory.saveUser_takes_activation_back`, `Memory.saveUser_updates_iff`,
  `Memory.not_always_updated`.
-/
import Gatehouse.MySql.Stores
import Gatehouse.Proofs.Store.Writes

set_option autoImplicit false

namespace Gatehouse

/-! ## The contract -/

/-- Whether of some users at most the password hash of the one with an id was changed. -/
structure Updates (id : Uuid) (before after : Table Uuid User) : Prop where
  /-- The same ids are stored. -/
  ids : ∀ j, (after.get? j).isSome = (before.get? j).isSome
  others : ∀ j, j ≠ id → after.get? j = before.get? j
  user : ∀ u, before.get? id = some u → ∃ hash, after.get? id = some (u.withPasswordHash hash)

theorem Updates.refl (id : Uuid) (users : Table Uuid User) : Updates id users users where
  ids _ := rfl
  others _ _ := rfl
  user u h := ⟨u.passwordHash, h⟩

theorem updates_insert {users : Table Uuid User} {id : Uuid} {u : User}
    (known : users.get? id = some u) (hash : String) :
    Updates id users (users.insert id (u.withPasswordHash hash)) where
  ids j := by
    rw [Table.get?_insert]
    split
    · rename_i same
      rw [same, known, Option.isSome_some, Option.isSome_some]
    · rfl
  others j other := Table.get?_insert_of_ne _ _ other
  user v hv := by
    obtain rfl := Option.some.inj (known.symm.trans hv)
    exact ⟨hash, Table.get?_insert_self _ _ _⟩

/-! ## In the database -/

namespace MySql

/-- The users after the statement `Statement.updatePassword`: the row with the id, if there is
one, has another password hash. -/
def passwordUpdated (users : Table Uuid User) (id : Uuid) (hash : String) : Table Uuid User :=
  match users.get? id with
  | some u => users.insert id (u.withPasswordHash hash)
  | none => users

theorem passwordUpdated_of_get? {users : Table Uuid User} {id : Uuid} {u : User}
    (known : users.get? id = some u) (hash : String) :
    passwordUpdated users id hash = users.insert id (u.withPasswordHash hash) := by
  rw [passwordUpdated, known]

theorem updates_passwordUpdated (users : Table Uuid User) (id : Uuid) (hash : String) :
    Updates id users (passwordUpdated users id hash) := by
  unfold passwordUpdated
  split
  · rename_i u known
    exact updates_insert known hash
  · exact Updates.refl id users

end MySql

/-! ## In memory -/

namespace Memory

variable {s : Memory} {id : Uuid} {user : User}

/-- Whether a value of a user is the stored one but for its password. -/
def IsCurrent (s : Memory) (id : Uuid) (user : User) : Prop :=
  ∃ stored, s.users.get? id = some stored ∧ user = stored.withPasswordHash user.passwordHash

/-- Keeping a value changes at most a password when the value was current. -/
theorem updates_keepUser_iff :
    Updates id s.users (s.keepUser id user).users ↔ s.IsCurrent id user := by
  rw [keepUser_users]
  constructor
  · intro h
    have kept : ((s.users.insert id user).get? id).isSome = true := by
      rw [Table.get?_insert_self, Option.isSome_some]
    obtain ⟨stored, known⟩ := Option.isSome_iff_exists.1 ((h.ids id).symm.trans kept)
    obtain ⟨hash, hhash⟩ := h.user stored known
    rw [Table.get?_insert_self] at hhash
    obtain rfl := Option.some.inj hhash
    exact ⟨stored, known, rfl⟩
  · rintro ⟨stored, known, current⟩
    rw [current]
    exact updates_insert known user.passwordHash

/-- Keeping a value does what the database does when the value was current. -/
theorem keepUser_eq_passwordUpdated_iff :
    (s.keepUser id user).users = MySql.passwordUpdated s.users id user.passwordHash
      ↔ s.IsCurrent id user := by
  constructor
  · intro same
    rw [← updates_keepUser_iff, same]
    exact MySql.updates_passwordUpdated s.users id user.passwordHash
  · rintro ⟨stored, known, current⟩
    rw [keepUser_users, MySql.passwordUpdated_of_get? known, ← current]

/-- A value that was read before an activation takes the activation back when it is saved with
a new password; the database would have kept the account active. -/
theorem saveUser_takes_activation_back (works : s.outages.userSaves = false)
    (known : s.users.get? id = some user) (named : user.id = some id)
    (inactive : user.isActive = false) (hash : String) (fresh : Uuid) :
    ∃ activated saved, s.activateUser id = .ok activated
      ∧ activated.memory.saveUser fresh (user.withPasswordHash hash) = .ok saved
      ∧ (saved.memory.users.get? id).map User.isActive = some false
      ∧ ((MySql.passwordUpdated activated.memory.users id hash).get? id).map User.isActive
        = some true
      ∧ ¬ Updates id activated.memory.users saved.memory.users := by
  have again : (s.keepUser id { user with isActive := true }).users.get? id
      = some { user with isActive := true } := Table.get?_insert_self _ _ _
  have named' : (user.withPasswordHash hash).id = some id := named
  have works' : (s.keepUser id { user with isActive := true }).outages.userSaves = false := works
  refine ⟨_, _, activateUser_kept known, saveUser_kept works' fresh named', ?_, ?_, ?_⟩
  · rw [keepUser_users, Table.get?_insert_self, Option.map_some]
    exact congrArg some inactive
  · rw [MySql.passwordUpdated_of_get? again, Table.get?_insert_self]
    rfl
  · intro updates
    obtain ⟨stored, hstored, current⟩ := updates_keepUser_iff.1 updates
    obtain rfl := Option.some.inj (again.symm.trans hstored)
    have active := congrArg User.isActive current
    exact nomatch inactive.symm.trans active

/-- Saving a user with an id.  On the database this is one statement, which changes at most
its password hash, for every value that is saved and all stored users.  In memory the value
itself is kept under the id, and that keeps the contract, and is what the database does, exactly
when the value is the stored one but for its password. -/
theorem saveUser_updates_iff (named : user.id = some id) (s : Memory) (fresh : Uuid) :
    (∀ (m : Type → Type) [Monad m] [MonadLog m] [MonadRandom m] [MonadDatabase m],
        (UserStore.save user : Step MySql.Kinds m User) = do
          let _ ← MySql.write "update user" (.updatePassword id user.passwordHash)
          pure user)
      ∧ (∀ users, Updates id users (MySql.passwordUpdated users id user.passwordHash))
      ∧ (s.outages.userSaves = true → s.saveUser fresh user = .error userSaveFailure)
      ∧ (s.outages.userSaves = false → ∃ w, s.saveUser fresh user = .ok w
        ∧ w.value = user ∧ w.memory = s.keepUser id user
        ∧ (Updates id s.users w.memory.users ↔ s.IsCurrent id user)
        ∧ (w.memory.users = MySql.passwordUpdated s.users id user.passwordHash
          ↔ s.IsCurrent id user)) := by
  refine ⟨?_, ?_, ?_, ?_⟩
  · intro m _ _ _ _
    simp only [UserStore.save, named]
  · intro users
    exact MySql.updates_passwordUpdated users id user.passwordHash
  · intro fails
    exact if_pos fails
  · intro works
    exact ⟨_, saveUser_kept works fresh named, rfl, rfl, updates_keepUser_iff,
      keepUser_eq_passwordUpdated_iff⟩

/-- An account that is not active. -/
def registered : User := (User.new "Ada" "ada@yas.org" "#one").kept ⟨0xada#128⟩

/-- A user that nothing else happened to has its password changed. -/
theorem saveUser_updates_alone :
    ∃ w, (empty.keepUser ⟨0xada#128⟩ registered).saveUser default
        (registered.withPasswordHash "#two") = .ok w
      ∧ Updates ⟨0xada#128⟩ (empty.keepUser ⟨0xada#128⟩ registered).users w.memory.users := by
  have named : (registered.withPasswordHash "#two").id = some ⟨0xada#128⟩ := rfl
  obtain ⟨-, -, -, saved⟩ := saveUser_updates_iff named
    (empty.keepUser ⟨0xada#128⟩ registered) default
  obtain ⟨w, hw, -, -, updates, -⟩ := saved rfl
  exact ⟨w, hw, updates.2 ⟨registered, Table.get?_insert_self _ _ _, rfl⟩⟩

/-- A new password saved for an account that was activated in the meantime makes it inactive
again, and saving a user whose id is not stored adds the user. -/
theorem not_always_updated :
    (∃ w, (empty.keepUser ⟨0xada#128⟩ { registered with isActive := true }).saveUser default
          (registered.withPasswordHash "#two") = .ok w
        ∧ w.memory.users.get? ⟨0xada#128⟩ = some (registered.withPasswordHash "#two")
        ∧ ¬ Updates ⟨0xada#128⟩
          (empty.keepUser ⟨0xada#128⟩ { registered with isActive := true }).users w.memory.users)
      ∧ ∃ w, empty.saveUser default registered = .ok w
        ∧ w.memory.users.get? ⟨0xada#128⟩ = some registered
        ∧ ¬ Updates ⟨0xada#128⟩ empty.users w.memory.users := by
  have named : (registered.withPasswordHash "#two").id = some ⟨0xada#128⟩ := rfl
  have named' : registered.id = some ⟨0xada#128⟩ := rfl
  refine ⟨⟨_, saveUser_kept rfl default named, Table.get?_insert_self _ _ _, ?_⟩,
    ⟨_, saveUser_kept rfl default named', Table.get?_insert_self _ _ _, ?_⟩⟩
  · intro updates
    obtain ⟨stored, hstored, current⟩ := updates_keepUser_iff.1 updates
    obtain rfl := Option.some.inj ((Table.get?_insert_self _ _ _).symm.trans hstored)
    exact nomatch congrArg User.isActive current
  · intro updates
    obtain ⟨stored, hstored, -⟩ := updates_keepUser_iff.1 updates
    exact nomatch hstored

end Memory

end Gatehouse
