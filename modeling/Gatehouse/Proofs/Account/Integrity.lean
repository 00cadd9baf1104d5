/-
  Gatehouse/Proofs/Account/Integrity.lean --- the stores stay in order.

  Calls of the service are made one after another on stores in memory that start empty,
  with any inputs, outages and failures.  The users, the activations and the recoveries
  always fit together: an address has one user, everything is kept under its own key, and
  no credential is for a user who is not there.  Users stay, with their names and
  addresses, and an active one stays active.

  Main definitions: `Memory.Sound`, `Memory.Lasts`, `Visit`, `Visited`.
  Main statement: `Visited.sound_and_lasting`.
-/
import Gatehouse.Proofs.Account.Login
import Gatehouse.Proofs.Session.Sparing

set_option autoImplicit false

namespace Gatehouse

namespace Memory

/-! ## Stores in order -/

/-- Whether the users and the credentials fit together. -/
structure Sound (s : Memory) : Prop where
  /-- Each user is kept under its own id, and no address has two users. -/
  users : UsersInOrder s.users
  /-- Each credential is kept under its own token. -/
  keyed : ∀ {kind token c}, (s.credentials kind).get? token = some c → c.token = token
  /-- Each credential is for a user who is kept. -/
  owned : ∀ {kind token c}, (s.credentials kind).get? token = some c →
    ∃ u, s.users.get? c.userId = some u

/-- Whether every user is still there, with its name and address, and still active if it
was. -/
def Lasts (before after : Memory) : Prop :=
  ∀ id u, before.users.get? id = some u → ∃ v, after.users.get? id = some v
    ∧ v.name = u.name ∧ v.email = u.email ∧ (u.isActive = true → v.isActive = true)

theorem Sound.empty : Sound empty where
  users := .empty
  keyed := by
    rintro (_ | _) token c h
    · exact nomatch h
    · exact nomatch h
  owned := by
    rintro (_ | _) token c h
    · exact nomatch h
    · exact nomatch h

section

variable {s t : Memory}

theorem Lasts.of_users_eq (h : t.users = s.users) : Lasts s t := by
  intro id u hu
  exact ⟨u, by rw [h, hu], rfl, rfl, fun active => active⟩

theorem Lasts.trans {r : Memory} (h : Lasts r s) (h' : Lasts s t) : Lasts r t := by
  intro id u hu
  obtain ⟨v, hv, hname, hemail, hactive⟩ := h id u hu
  obtain ⟨w, hw, hname', hemail', hactive'⟩ := h' id v hv
  exact ⟨w, hw, hname'.trans hname, hemail'.trans hemail, fun active => hactive' (hactive active)⟩

/-! ## What each change preserves -/

/-- A new user under an unused id. -/
theorem Lasts.register {id : Uuid} {user : User} (unused : s.users.get? id = none) :
    Lasts s (s.keepUser id user) := by
  intro j u hu
  have hj : j ≠ id := by
    rintro rfl
    exact nomatch unused.symm.trans hu
  refine ⟨u, ?_, rfl, rfl, fun active => active⟩
  rw [keepUser_users, Table.get?_insert_of_ne _ _ hj, hu]

/-- Another value of a user, who keeps its name and address and stays active. -/
theorem Lasts.replace {id : Uuid} {old new : User} (known : s.users.get? id = some old)
    (hname : new.name = old.name) (hemail : new.email = old.email)
    (hactive : old.isActive = true → new.isActive = true) : Lasts s (s.keepUser id new) := by
  intro j u hu
  rw [keepUser_users, Table.get?_insert]
  split
  · rename_i same
    rw [same] at hu
    obtain rfl := Option.some.inj (hu.symm.trans known)
    exact ⟨new, rfl, hname, hemail, hactive⟩
  · exact ⟨u, hu, rfl, rfl, fun active => active⟩

/-- Stores with other users, but with those that there were. -/
theorem Sound.keepUser (h : Sound s) {id : Uuid} {user : User}
    (users : UsersInOrder (s.users.insert id user)) (lasts : Lasts s (s.keepUser id user)) :
    Sound (s.keepUser id user) where
  users := users
  keyed := by
    intro kind token c hc
    rw [credentials_keepUser] at hc
    exact h.keyed hc
  owned := by
    intro kind token c hc
    rw [credentials_keepUser] at hc
    obtain ⟨u, hu⟩ := h.owned hc
    obtain ⟨v, hv, -⟩ := lasts _ u hu
    exact ⟨v, hv⟩

/-- Stores with the same users and no credentials but those and the ones of kept users. -/
theorem Sound.recredential (h : Sound s) (husers : t.users = s.users)
    (hcredentials : ∀ {kind token c}, (t.credentials kind).get? token = some c →
      (s.credentials kind).get? token = some c
        ∨ c.token = token ∧ ∃ u, s.users.get? c.userId = some u) : Sound t where
  users := by
    rw [husers]
    exact h.users
  keyed := by
    intro kind token c hc
    rcases hcredentials hc with hc | ⟨same, -⟩
    · exact h.keyed hc
    · exact same
  owned := by
    intro kind token c hc
    rw [husers]
    rcases hcredentials hc with hc | ⟨-, hu⟩
    · exact h.owned hc
    · exact hu

/-- A credential of a user who is kept. -/
theorem Sound.keep (h : Sound s) {kind : CredentialKind} {c : Credential} {u : User}
    (hu : s.users.get? c.userId = some u) : Sound (s.keep kind c) := by
  refine h.recredential (keep_users kind c) ?_
  intro other token d hd
  rcases kept_of_keep hd with hd | ⟨rfl, htoken⟩
  · exact Or.inl hd
  · exact Or.inr ⟨htoken, u, hu⟩

/-- One credential less. -/
theorem Sound.remove (h : Sound s) (kind : CredentialKind) (token : String) :
    Sound (s.remove kind token) := by
  refine h.recredential (remove_users kind token) ?_
  intro other token' d hd
  exact Or.inl (kept_of_remove hd)

/-- One mail more. -/
theorem Sound.queue (h : Sound s) (m : Mail) : Sound (s.queue m) := by
  refine h.recredential rfl ?_
  intro kind token c hc
  rw [credentials_queue] at hc
  exact Or.inl hc

end

end Memory

/-! ## What each call preserves -/

/-- A call that succeeds keeps the stores in order, and every user. -/
theorem AccountCall.Effect.sound_lasts {s : AccountService} {w : Premises} {New : String → Prop}
    {call : AccountCall} {answer : AccountAnswer} {after : Memory}
    (effect : call.Effect s w New answer after)
    (h : w.memory.Sound) : after.Sound ∧ w.memory.Lasts after := by
  cases effect with
  | @signedUp input id _ token hash user mail free unused hashed made =>
    have hid : user.id = some id := by
      rw [made]
      rfl
    have hfree : ∀ {j u}, w.memory.users.get? j = some u → u.email ≠ user.email := by
      rw [made]
      exact Memory.existsByEmail_false free
    have hlasts : w.memory.Lasts (w.memory.keepUser id user) := .register unused
    have hregistered := h.keepUser (h.users.register hfree hid) hlasts
    have hkept : ((w.memory.keepUser id user).keep .activation
        { token, userId := id }).Sound := hregistered.keep (Table.get?_insert_self _ _ _)
    refine ⟨hkept.queue _, hlasts.trans (.of_users_eq ?_)⟩
    rw [Memory.queue_users, Memory.keep_users]
  | @activated token activation user _ found known consumed =>
    have hlasts : w.memory.Lasts (w.memory.keepUser activation.userId
        { user with isActive := true }) := .replace known rfl rfl fun _ => rfl
    have husers : UsersInOrder (w.memory.users.insert activation.userId
        { user with isActive := true }) := h.users.replace known rfl rfl
    have hactive := h.keepUser husers hlasts
    rcases consumed with rfl | rfl
    · exact ⟨hactive, hlasts⟩
    · exact ⟨hactive.remove _ _, hlasts.trans (.of_users_eq (Memory.remove_users _ _))⟩
  | loggedIn => exact ⟨h, .of_users_eq rfl⟩
  | @recoveryOpened email token user id _ mail found named =>
    obtain ⟨-, j, hj⟩ := Memory.findByEmail_some found
    obtain rfl : j = id := Option.some.inj ((h.users.named hj).symm.trans named)
    refine ⟨(h.keep (c := { token, userId := j }) hj).queue _, .of_users_eq ?_⟩
    rw [Memory.queue_users, Memory.keep_users]
  | @recovered input recovery user hash fresh _ found known hashed consumed =>
    have howner : user.id = some recovery.userId := h.users.named known
    have hkept : (user.withPasswordHash hash).keptId fresh = recovery.userId := by
      simp [User.keptId, User.withPasswordHash, howner]
    rw [hkept] at consumed
    have hid : ((user.withPasswordHash hash).kept fresh).id = user.id := by
      rw [howner, User.kept, hkept]
    have hlasts : w.memory.Lasts (w.memory.keepUser recovery.userId
        ((user.withPasswordHash hash).kept fresh)) := .replace known rfl rfl fun active => active
    have hreplaced := h.keepUser (h.users.replace known hid rfl) hlasts
    rcases consumed with rfl | rfl
    · exact ⟨hreplaced, hlasts⟩
    · exact ⟨hreplaced.remove _ _, hlasts.trans (.of_users_eq (Memory.remove_users _ _))⟩

/-! ## Runs -/

/-- A call of the service, with what there is around it. -/
inductive Visit where
  | account (t : Turn)
  | session (denylist : SessionDenylist) (clock : Instant) (call : SessionCall)

namespace Visit

variable (s : AccountService) (rt : Runtime Premises)

/-- The state after a call. -/
def take : Visit → Runtime Premises
  | .account t => (t.take s rt).2
  | .session _ clock call => ((call.run s).run.runOn { rt with clock }).2

/-- Whether nothing that a call draws is in use. -/
def Fresh : Visit → Prop
  | .account t => DrawsUnused (t.call.run s).run (t.enter rt)
  | .session _ _ _ => True

variable {s rt}

/-- A call keeps the stores in order, and every user. -/
theorem sound_lasts (v : Visit) (h : rt.world.memory.Sound) (fresh : v.Fresh s rt) :
    (v.take s rt).world.memory.Sound
      ∧ rt.world.memory.Lasts (v.take s rt).world.memory := by
  cases v with
  | account t =>
    have hentered : (t.enter rt).world.memory.Sound := ⟨h.users, h.keyed, h.owned⟩
    have hends : Ends (t.call.Effect s (t.enter rt).world _) (t.enter rt).world.memory
        (t.take s rt) :=
      t.call.ends s fresh
    change (t.take s rt).2.world.memory.Sound ∧ rt.world.memory.Lasts (t.take s rt).2.world.memory
    generalize t.take s rt = result at hends ⊢
    cases hends with
    | givenUp same =>
      rw [same]
      exact ⟨hentered, .of_users_eq rfl⟩
    | failed same =>
      rw [same]
      exact ⟨hentered, .of_users_eq rfl⟩
    | succeeded effect => exact effect.sound_lasts hentered
  | session denylist clock call =>
    have hspared : ((Visit.session denylist clock call).take s rt).world.memory
        = rt.world.memory := call.run_spares s { rt with clock }
    rw [hspared]
    exact ⟨h, .of_users_eq rfl⟩

end Visit

/-- The states that calls reach from empty stores, with ids and tokens that are not in use
when they are drawn. -/
inductive Visited (s : AccountService) : Runtime Premises → Prop
  | start {rt : Runtime Premises} (h : rt.world.memory = .empty) : Visited s rt
  | visit {rt : Runtime Premises} (earlier : Visited s rt) (v : Visit) (fresh : v.Fresh s rt) :
      Visited s (v.take s rt)

/-- After every run of calls the stores are in order. -/
theorem Visited.sound {s : AccountService} {rt : Runtime Premises} (h : Visited s rt) :
    rt.world.memory.Sound := by
  induction h with
  | start h =>
    rw [h]
    exact .empty
  | visit earlier v fresh ih => exact (v.sound_lasts ih fresh).1

/-- After every run of calls no address has two users, each user is kept under its own id,
and each credential under its own token and for a user who is kept; and the next call
leaves every user there, with its name and address, and active if it was. -/
theorem Visited.sound_and_lasting {s : AccountService} {rt : Runtime Premises}
    (h : Visited s rt) :
    rt.world.memory.Sound
      ∧ ∀ v : Visit, v.Fresh s rt → rt.world.memory.Lasts (v.take s rt).world.memory :=
  ⟨h.sound, fun v fresh => (v.sound_lasts h.sound fresh).2⟩

/-- The state after Bob has registered. -/
def Premises.bob : Runtime Premises :=
  (Visit.account (Turn.plain (.signup .bob))).take .plain Premises.start

theorem Visited.sound_and_lasting_bob :
    Visited .plain Premises.bob
      ∧ Premises.bob.world.memory.users.size = 1 ∧ Premises.bob.world.memory.activations.size = 1
      ∧ Premises.bob.world.memory.Sound
      ∧ ∀ v : Visit, v.Fresh .plain Premises.bob →
        Premises.bob.world.memory.Lasts (v.take .plain Premises.bob).world.memory := by
  have fresh : (Visit.account (Turn.plain (.signup .bob))).Fresh .plain Premises.start := by
    intro n _ _
    exact ⟨rfl, fun kind => by cases kind <;> rfl⟩
  have visited : Visited .plain Premises.bob := (Visited.start rfl).visit _ fresh
  exact ⟨visited, by decide +kernel, by decide +kernel, sound_and_lasting visited⟩

end Gatehouse
