/-
  Gatehouse/Proofs/Account/Tokens.lean --- tokens reach their users and serve once.

  A registration, or the start of a recovery, queues one mail to the user's address, and the
  token that is read from its link is that of the one new credential.  Whatever other calls
  come in between, the token is accepted when it is presented, for the user that it was
  made for, and never again after that, unless it is drawn again.

  Main definitions: `Turn.Qualifies`, `Memory.Sends`, `ServesOnce`.
  Main statement: `Visited.tokens_arrive`.
-/
import Gatehouse.Proofs.Account.Keeping
import Gatehouse.Proofs.Account.Redeeming
import Gatehouse.Proofs.Mailing.Links

set_option autoImplicit false

namespace Gatehouse

/-! ## Redeeming a token -/

namespace AccountService

variable (rt : Runtime Premises) {c : Credential} {u : User}

theorem runOn_consumeActivation (unit : UnitOfWork Memory.Kinds)
    (found : rt.world.memory.activations.get? c.token = some c)
    (known : rt.world.memory.users.get? c.userId = some u)
    (works : rt.world.memory.outages = .none) :
    ∃ unit' rt', Virtual.runOn ((consumeActivation c : Step Memory.Kinds Premises.Run Unit).runOn
        unit) rt = (.ok (.ok (), unit'), rt')
      ∧ rt'.world.memory = (rt.world.memory.keepUser c.userId
          { u with isActive := true }).remove .activation c.token := by
  have hworks : (rt.world.memory.keepUser c.userId { u with isActive := true }).cannotDelete
      .activation = false := congrArg Outages.activationDeletes works
  have hfound : ((rt.world.memory.keepUser c.userId { u with isActive := true }).credentials
      .activation).get? c.token = some c := found
  have hdelete := Memory.deleteCredential_kept hworks hfound
  simp only [consumeActivation, Step.runOn_bind, UserStore.runOn_activate,
    Memory.activateUser_kept known, Memory.outcome_ok, UnitOfWork.register,
    CredentialStore.runOn_delete, Runtime.withMemory_memory, hdelete]
  exact ⟨_, _, rfl, rfl⟩

/-- An activation of a user who is kept is accepted. -/
theorem runOn_activate (found : rt.world.memory.activations.get? c.token = some c)
    (known : rt.world.memory.users.get? c.userId = some u)
    (works : rt.world.memory.outages = .none) :
    ∃ rt', (activate c.token : ExceptT Failure Premises.Run Unit).run.runOn rt = (.ok (.ok ()), rt')
      ∧ rt'.world.memory = (rt.world.memory.keepUser c.userId
          { u with isActive := true }).remove .activation c.token := by
  obtain ⟨unit, rt₁, hstep, hmemory⟩ := runOn_consumeActivation (UnitOfWork.opened rt)
    (UnitOfWork.empty _ (UnitOfWork.nextId rt)) found known works
  obtain ⟨rt₂, hperform, hworld, -⟩ := UnitOfWork.runOn_perform_ok hstep
  have hfind : rt.world.memory.findCredential .activation c.token = some c := found
  have hrun : (activate c.token : ExceptT Failure Premises.Run Unit).run.runOn rt
      = (.ok (.ok ()), rt₂.logged
          { level := .info, source := .accounts, message := "User activated"
            fields := [("user_id", .text c.userId.text)] }) := by
    rw [activate, Virtual.runOn_attempt_bind, CredentialStore.runOn_find, hfind]
    dsimp only
    rw [Virtual.runOn_attempt_bind, hperform]
    rfl
  refine ⟨_, hrun, ?_⟩
  change rt₂.world.memory = _
  rw [hworld]
  exact hmemory

theorem runOn_consumeRecovery (unit : UnitOfWork Memory.Kinds)
    (found : rt.world.memory.recoveries.get? c.token = some c) (named : u.id = some c.userId)
    (works : rt.world.memory.outages = .none) :
    ∃ unit' rt', Virtual.runOn ((consumeRecovery u c : Step Memory.Kinds Premises.Run Unit).runOn
        unit) rt = (.ok (.ok (), unit'), rt')
      ∧ rt'.world.memory = (rt.world.memory.keepUser c.userId u).remove .recovery c.token := by
  have hworks : (rt.world.memory.keepUser c.userId u).cannotDelete .recovery = false := rfl
  have hfound : ((rt.world.memory.keepUser c.userId u).credentials .recovery).get? c.token
      = some c := found
  have hdelete := Memory.deleteCredential_kept hworks hfound
  have hsave := Memory.saveUser_kept (congrArg Outages.userSaves works)
    (rt.entropy.idAt rt.entropy.drawn) named
  simp only [consumeRecovery, Step.runOn_bind, UserStore.runOn_save, hsave, Memory.outcome_ok,
    UnitOfWork.register, CredentialStore.runOn_delete, Runtime.withMemory_memory, hdelete]
  exact ⟨_, _, rfl, rfl⟩

/-- A recovery of a user who is kept is accepted together with the old password. -/
theorem runOn_recoverPassword {input : RecoverInput} {hash : String}
    (found : rt.world.memory.recoveries.get? c.token = some c) (presented : input.token = c.token)
    (known : rt.world.memory.users.get? c.userId = some u) (named : u.id = some c.userId)
    (right : rt.world.verify input.oldPassword u.passwordHash = .ok true)
    (hashed : rt.world.hash input.newPassword = .ok hash)
    (works : rt.world.memory.outages = .none) :
    ∃ rt', (recoverPassword input : ExceptT Failure Premises.Run Unit).run.runOn rt
        = (.ok (.ok ()), rt')
      ∧ rt'.world.memory = (rt.world.memory.keepUser c.userId
          (u.withPasswordHash hash)).remove .recovery c.token := by
  obtain ⟨unit, rt₁, hstep, hmemory⟩ := runOn_consumeRecovery (UnitOfWork.opened rt)
    (u := u.withPasswordHash hash) (UnitOfWork.empty _ (UnitOfWork.nextId rt)) found named works
  obtain ⟨rt₂, hperform, hworld, -⟩ := UnitOfWork.runOn_perform_ok hstep
  have hfind : rt.world.memory.findCredential .recovery input.token = some c := by
    rw [presented]
    exact found
  have hknown : rt.world.memory.findById c.userId = .ok (some u) := by
    unfold Memory.findById Memory.readUsers
    rw [works, known]
    rfl
  have hrun : (recoverPassword input : ExceptT Failure Premises.Run Unit).run.runOn rt
      = (.ok (.ok ()), rt₂.logged
          { level := .info, source := .accounts, message := "Password recovered"
            fields := [("user_id", .text c.userId.text)] }) := by
    rw [recoverPassword, Virtual.runOn_attempt_bind, CredentialStore.runOn_find, hfind]
    dsimp only
    rw [Virtual.runOn_attempt_bind, UserStore.runOn_findById, hknown]
    dsimp only
    rw [Virtual.runOn_attempt_bind, PasswordHasher.runOn_verify, right]
    dsimp only
    rw [if_pos rfl, Virtual.runOn_attempt_bind, PasswordHasher.runOn_hash, hashed]
    dsimp only
    rw [Virtual.runOn_attempt_bind, hperform]
    rfl
  refine ⟨_, hrun, ?_⟩
  change rt₂.world.memory = _
  rw [hworld]
  exact hmemory

end AccountService

/-! ## Calls that redeem a token -/

/-- Whether a call has all that it takes to redeem a token of a user, and what it makes of
the user. -/
inductive Turn.Qualifies (t : Turn) (token : String) (u : User) : CredentialKind → User → Prop
  | activates (call : t.call = .activate token) :
      Qualifies t token u .activation { u with isActive := true }
  | recovers {input : RecoverInput} {hash : String} (call : t.call = .recoverPassword input)
      (presented : input.token = token)
      (right : t.verify input.oldPassword u.passwordHash = .ok true)
      (hashed : t.hash input.newPassword = .ok hash) :
      Qualifies t token u .recovery (u.withPasswordHash hash)

namespace Turn

variable {s : AccountService} {rt : Runtime Premises} {t : Turn} {kind : CredentialKind}

/-- A credential that can be redeemed is accepted, and nothing else changes. -/
theorem Qualifies.accepted {c : Credential} {u v : User} (h : t.Qualifies c.token u kind v)
    (works : t.outages = .none) (pending : Pending kind c rt.world.memory)
    (known : rt.world.memory.users.get? c.userId = some u) :
    (t.take s rt).1 = .ok (.ok .done)
      ∧ (t.take s rt).2.world.memory
        = ((t.enter rt).world.memory.keepUser c.userId v).remove kind c.token := by
  have hnamed : u.id = some c.userId := pending.sound.users.named known
  unfold take
  cases h with
  | activates call =>
    obtain ⟨rt', hrun, hmemory⟩ := AccountService.runOn_activate (t.enter rt) pending.kept known
      works
    rw [call, AccountCall.run, Virtual.runOn_attempt_bind, hrun]
    exact ⟨rfl, hmemory⟩
  | recovers call presented right hashed =>
    obtain ⟨rt', hrun, hmemory⟩ := AccountService.runOn_recoverPassword (t.enter rt)
      pending.kept presented known hnamed right hashed works
    rw [call, AccountCall.run, Virtual.runOn_attempt_bind, hrun]
    exact ⟨rfl, hmemory⟩

/-- A token without a credential is refused. -/
theorem refused {token : String} (presents : t.call.Presents kind token)
    (absent : (rt.world.memory.credentials kind).get? token = none) :
    (t.take s rt).1 = .ok (.error kind.unknown) := by
  unfold take
  cases hcall : t.call with
  | activate presented =>
    rw [hcall] at presents
    obtain ⟨rfl, rfl⟩ := presents
    have hfind : (t.enter rt).world.memory.findCredential .activation presented = none := absent
    rw [AccountCall.run, Virtual.runOn_attempt_bind, AccountService.activate,
      Virtual.runOn_attempt_bind, CredentialStore.runOn_find, hfind]
    rfl
  | recoverPassword input =>
    rw [hcall] at presents
    obtain ⟨rfl, rfl⟩ := presents
    have hfind : (t.enter rt).world.memory.findCredential .recovery input.token = none := absent
    rw [AccountCall.run, Virtual.runOn_attempt_bind, AccountService.recoverPassword,
      Virtual.runOn_attempt_bind, CredentialStore.runOn_find, hfind]
    rfl
  | signup _ | login _ | createRecovery _ =>
    rw [hcall] at presents
    exact presents.elim

end Turn

/-- Whether a credential serves once from a state on: whatever calls come that do not redeem
it, the call that does is accepted, changes its user and removes it, and nothing else; and
whatever calls come after that and do not draw its token again, the token is refused. -/
def ServesOnce (s : AccountService) (kind : CredentialKind) (c : Credential)
    (start : Runtime Premises) : Prop :=
  ∀ now, Onward s (Visit.LeavesToken s kind c.token) start now →
    ∃ u, now.world.memory.users.get? c.userId = some u
      ∧ ∀ (t : Turn) (v : User), t.outages = .none → t.Qualifies c.token u kind v →
        (t.take s now).1 = .ok (.ok .done)
          ∧ (t.take s now).2.world.memory
            = ((t.enter now).world.memory.keepUser c.userId v).remove kind c.token
          ∧ ∀ later, Onward s (Visit.AvoidsToken s c.token) (t.take s now).2 later →
            ∀ t' : Turn, t'.call.Presents kind c.token →
              (t'.take s later).1 = .ok (.error kind.unknown)

/-- A credential that can be redeemed serves once. -/
theorem Pending.servesOnce {s : AccountService} {kind : CredentialKind} {c : Credential}
    {start : Runtime Premises} (h : Pending kind c start.world.memory) :
    ServesOnce s kind c start := by
  intro now onward
  have hpending := onward.pending h
  -- the user may have changed meanwhile, but is still there
  obtain ⟨u, known⟩ := hpending.sound.owned hpending.kept
  refine ⟨u, known, ?_⟩
  intro t v works qualifies
  obtain ⟨hanswer, hmemory⟩ := qualifies.accepted (s := s) works hpending known
  refine ⟨hanswer, hmemory, ?_⟩
  intro later onward' t' presents
  have hremoved : ((t.take s now).2.world.memory.credentials kind).get? c.token = none := by
    rw [hmemory, Memory.remove, Memory.credentials_withCredentials_self, Table.get?_erase,
      if_pos rfl]
  exact Turn.refused presents (onward'.absent hremoved)

/-! ## Mailed tokens -/

/-- Whether one new credential of a kind, and one new mail that brings its token to an
address, are all that changed. -/
structure Memory.Sends (before : Memory) (kind : CredentialKind) (c : Credential)
    (address : String) (after : Memory) : Prop where
  unused : (before.credentials kind).get? c.token = none
  mailed : ∃ m : Mail, m.Brings address c.token ∧ after = (before.keep kind c).queue m

theorem Memory.Sends.kept {before after : Memory} {kind : CredentialKind} {c : Credential}
    {address : String} (h : before.Sends kind c address after) :
    (after.credentials kind).get? c.token = some c := by
  obtain ⟨m, -, rfl⟩ := h.mailed
  rw [credentials_queue, keep, credentials_withCredentials_self, Table.get?_insert_self]

namespace AccountCall.Effect

variable {s : AccountService} {w : Premises} {New : String → Prop} {after : Memory}

/-- A registration sends its user the token of an activation. -/
theorem sends_activation {input : SignupInput} {user : User}
    (effect : Effect s w New (.signup input) (.registered user) after) :
    ∃ id token, user.id = some id ∧ user.email = input.email ∧ w.memory.users.get? id = none
      ∧ (w.memory.keepUser id user).Sends .activation { token, userId := id } input.email
        after := by
  cases effect with
  | @signedUp _ id mailId token hash _ mail free unused hashed made spare drawn written =>
    have hnamed : user.id = some id := by
      rw [made]
      rfl
    have hemail : user.email = input.email := by
      rw [made]
      rfl
    rw [hemail] at written
    refine ⟨id, token, hnamed, hemail, unused, spare, _, ?_, rfl⟩
    exact (CredentialKind.brings_of_mail .activation written).withId (some mailId)

/-- The start of a recovery sends the user of its address the token of a recovery. -/
theorem sends_recovery {email : String}
    (effect : Effect s w New (.createRecovery email) .done after) (sound : w.memory.Sound) :
    ∃ user id token, w.memory.users.get? id = some user ∧ user.email = email
      ∧ w.memory.Sends .recovery { token, userId := id } email after := by
  cases effect with
  | @recoveryOpened _ token user id mailId mail found named spare drawn written =>
    obtain ⟨hemail, j, hj⟩ := Memory.findByEmail_some found
    obtain rfl : j = id := Option.some.inj ((sound.users.named hj).symm.trans named)
    rw [hemail] at written
    refine ⟨user, j, token, hj, hemail, spare, _, ?_, rfl⟩
    exact (CredentialKind.brings_of_mail .recovery written).withId (some mailId)

end AccountCall.Effect

/-- A workflow leads on from every state that calls reach. -/
theorem Visited.turn {s : AccountService} {rt : Runtime Premises} (h : Visited s rt) (t : Turn)
    (fresh : (Visit.account t).Fresh s rt) : Visited s (t.take s rt).2 := h.visit (.account t) fresh

/-- After every run of calls, a registration that succeeds sends its user the token of the
one new activation, and the start of a recovery that succeeds the token of the one new
recovery; and each of the two serves once. -/
theorem Visited.tokens_arrive {s : AccountService} {rt : Runtime Premises} (h : Visited s rt)
    (t : Turn) (fresh : (Visit.account t).Fresh s rt) :
    let before := (t.enter rt).world.memory
    let after := (t.take s rt).2
    (∀ input user, t.call = .signup input → (t.take s rt).1 = .ok (.ok (.registered user)) →
        ∃ id token, user.id = some id ∧ user.email = input.email ∧ before.users.get? id = none
          ∧ (before.keepUser id user).Sends .activation { token, userId := id } input.email
              after.world.memory
          ∧ ServesOnce s .activation { token, userId := id } after)
      ∧ ∀ email, t.call = .createRecovery email → (t.take s rt).1 = .ok (.ok .done) →
        ∃ user id token, before.users.get? id = some user ∧ user.email = email
          ∧ before.Sends .recovery { token, userId := id } email after.world.memory
          ∧ ServesOnce s .recovery { token, userId := id } after := by
  intro before after
  have hsound : after.world.memory.Sound := (h.turn t fresh).sound
  have hbefore : before.Sound := ⟨h.sound.users, h.sound.keyed, h.sound.owned⟩
  have heffect : ∀ {answer}, (t.take s rt).1 = .ok (.ok answer) →
      t.call.Effect s (t.enter rt).world (Drawn (t.call.run s).run (t.enter rt)) answer
        after.world.memory := fun ok => (t.call.ends s fresh).of_ok ok
  constructor
  · intro input user hcall hanswer
    have effect := heffect hanswer
    rw [hcall] at effect
    obtain ⟨id, token, hid, hemail, hnew, hsends⟩ := effect.sends_activation
    exact ⟨id, token, hid, hemail, hnew, hsends, Pending.servesOnce ⟨hsound, hsends.kept⟩⟩
  · intro email hcall hanswer
    have effect := heffect hanswer
    rw [hcall] at effect
    obtain ⟨user, id, token, hknown, hemail, hsends⟩ := effect.sends_recovery hbefore
    exact ⟨user, id, token, hknown, hemail, hsends, Pending.servesOnce ⟨hsound, hsends.kept⟩⟩

/-! ## A run -/

/-- Links whose queries have tokens already, one of them with a fragment behind it. -/
def AccountService.linked : AccountService where
  config := { activationUrl := "yas:activate?token=old&lang=en#top"
              passwordRecoveryUrl := "yas:recover?token=old&token=older" }
  tokens := .default

/-- Nothing that a call draws is in use when no draw in a range that covers it is. -/
theorem Visit.fresh_of_range {s : AccountService} {rt : Runtime Premises} {t : Turn} {n k : Nat}
    (first : rt.entropy.drawn = n) (last : (t.take s rt).2.entropy.drawn = k)
    (unused : ∀ i < k, n ≤ i → rt.world.memory.users.get? (rt.entropy.idAt i) = none
      ∧ rt.world.memory.activations.get? (rt.entropy.tokenAt i) = none
      ∧ rt.world.memory.recoveries.get? (rt.entropy.tokenAt i) = none) :
    (Visit.account t).Fresh s rt := by
  subst first last
  intro i hle hlt
  obtain ⟨hid, hactivation, hrecovery⟩ := unused i hlt hle
  refine ⟨hid, ?_⟩
  rintro (_ | _)
  · exact hactivation
  · exact hrecovery

/-- Bob registers, and forgets his password. -/
def Turn.registers : Turn := .plain (.signup .bob)

def Turn.forgets : Turn := .plain (.createRecovery "bob@yas.org")

/-- Bob gets a token when he registers and another one when he forgets his password, and
each of the two serves once. -/
theorem Visited.tokens_arrive_bob :
    let bob := (User.new "Bob" "bob@yas.org" "#two").kept ⟨1#128⟩
    let now := (Turn.registers.take .linked Premises.start).2
    (Visited .linked Premises.start
        ∧ (Visit.account .registers).Fresh .linked Premises.start
        ∧ (Turn.registers.take .linked Premises.start).1 = .ok (.ok (.registered bob))
        ∧ ∃ id token, bob.id = some id
          ∧ ((Turn.registers.enter Premises.start).world.memory.keepUser id bob).Sends .activation
            { token, userId := id } SignupInput.bob.email
            (Turn.registers.take .linked Premises.start).2.world.memory
          ∧ ServesOnce .linked .activation { token, userId := id }
            (Turn.registers.take .linked Premises.start).2)
      ∧ Visited .linked now ∧ (Visit.account .forgets).Fresh .linked now
        ∧ (Turn.forgets.take .linked now).1 = .ok (.ok .done)
        ∧ ∃ id token, (Turn.forgets.enter now).world.memory.Sends .recovery
            { token, userId := id } "bob@yas.org" (Turn.forgets.take .linked now).2.world.memory
          ∧ ServesOnce .linked .recovery { token, userId := id }
            (Turn.forgets.take .linked now).2 := by
  intro bob now
  have registered : (Turn.registers.take .linked Premises.start).1
      = .ok (.ok (.registered bob)) := by
    apply ok_of_toOption
    decide +kernel
  have mailed : (Turn.forgets.take .linked now).1 = .ok (.ok .done) := by
    apply ok_of_toOption
    decide +kernel
  have freshFirst : (Visit.account .registers).Fresh .linked Premises.start := by
    intro n _ _
    exact ⟨rfl, fun kind => by cases kind <;> rfl⟩
  have freshSecond : (Visit.account .forgets).Fresh .linked now := by
    -- the registration has made four draws, and the recovery makes three
    apply Visit.fresh_of_range (n := 4) (k := 7)
    · decide +kernel
    · decide +kernel
    · decide +kernel
  have begun : Visited .linked Premises.start := .start rfl
  have visited : Visited .linked now := begun.turn .registers freshFirst
  obtain ⟨id, token, hid, -, -, sent, serves⟩ :=
    (tokens_arrive begun .registers freshFirst).1 .bob bob rfl registered
  obtain ⟨_, id', token', -, -, sent', serves'⟩ :=
    (tokens_arrive visited .forgets freshSecond).2 "bob@yas.org" rfl mailed
  exact ⟨⟨begun, freshFirst, registered, id, token, hid, sent, serves⟩,
    visited, freshSecond, mailed, id', token', sent', serves'⟩

end Gatehouse
