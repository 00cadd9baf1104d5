/-
  Gatehouse/Proofs/Account/Outcome.lean --- what each account workflow can do.

  A workflow on the stores in memory either fails and leaves them as they were, or
  succeeds and has its effect on them.  First the step inside the unit of work is
  followed through its writes, then the workflow around it.

  Main statement: `AccountCall.ends`.
-/
import Gatehouse.Proofs.Account.Calls
import Gatehouse.Proofs.Session.Issuing

set_option autoImplicit false

namespace Gatehouse

/-! ## The steps -/

namespace AccountService

variable (s : AccountService) (rt : Runtime Premises) {id : Uuid} {New : String → Prop}

theorem storedId_kept {m : Type → Type} [Monad m] (u : User) (fresh : Uuid) :
    (storedId (u.kept fresh) : ExceptT Failure m Uuid) = pure (u.keptId fresh) := rfl

/-- Keeps a new credential and queues the mail that carries it. -/
def keepAndMail {α : Type} (kind : CredentialKind) (c : Credential) (mail : Except Failure Mail)
    (a : α) : Step Memory.Kinds Premises.Run α := do
  CredentialStore.save kind c
  let mail ← ExceptT.mk (pure mail)
  enqueueMail mail
  pure a

theorem register_eq (input : SignupInput) :
    (s.register input : Step Memory.Kinds Premises.Run User)
      = Step.lift (PasswordHasher.hash input.password) >>= fun hash =>
        UserStore.save (User.new input.name input.email hash) >>= fun user =>
        Step.lift (storedId user) >>= fun id =>
        Step.lift (ExceptT.lift (freshCredential id)) >>= fun c =>
        keepAndMail .activation c
          (activationMail user.email s.config.activationUrl c.token) user :=
  rfl

theorem openRecovery_eq (user : User) (id : Uuid) :
    (s.openRecovery user id : Step Memory.Kinds Premises.Run Unit)
      = Step.lift (ExceptT.lift (freshCredential id)) >>= fun c =>
        keepAndMail .recovery c
          (recoveryMail user.email s.config.passwordRecoveryUrl c.token) () := by
  simp only [openRecovery, keepAndMail, bind_pure_unit]

/-- Keeping a credential and queueing its mail stops before both, stops between them, or
does both. -/
theorem keepAndMail_cases {α : Type} (kind : CredentialKind) (c : Credential)
    (mail : Except Failure Mail) (a : α) (u : UnitOfWork Memory.Kinds) :
    ∃ r u₁ rt₁, Virtual.runOn ((keepAndMail kind c mail a).runOn u) rt = (.ok (r, u₁), rt₁)
      ∧ rt.entropy.drawn ≤ rt₁.entropy.drawn
      ∧ ((∃ e, r = .error e ∧ u₁ = u ∧ rt₁.world.memory = rt.world.memory)
        ∨ (∃ e, r = .error e ∧ u₁ = u.addUndo (.saved kind c.token)
            ∧ rt₁.world.memory = rt.world.memory.keep kind c)
        ∨ r = .ok a ∧ ∃ m mailId, mail = .ok m ∧ rt₁.world.memory
            = (rt.world.memory.keep kind c).queue { m with id := some mailId }) := by
  simp only [keepAndMail, Step.runOn_bind, CredentialStore.runOn_save]
  cases hkeep : rt.world.memory.saveCredential kind c with
  | error e => exact ⟨_, _, _, rfl, Nat.le_refl _, Or.inl ⟨e, rfl, rfl, rfl⟩⟩
  | ok w =>
    obtain rfl := Memory.saveCredential_ok hkeep
    simp only [Memory.outcome_ok, UnitOfWork.register, Step.runOn_result]
    cases mail with
    | error e => exact ⟨_, _, _, rfl, Nat.le_refl _, Or.inr (Or.inl ⟨e, rfl, rfl, rfl⟩)⟩
    | ok mail =>
      simp only [runOn_enqueueMail, Runtime.withMemory_memory]
      cases hqueue : (rt.world.memory.keep kind c).enqueue
          ((rt.withMemory (rt.world.memory.keep kind c)).entropy.idAt
            (rt.withMemory (rt.world.memory.keep kind c)).entropy.drawn) mail with
      | error e => exact ⟨_, _, _, rfl, Nat.le_succ _, Or.inr (Or.inl ⟨e, rfl, rfl, rfl⟩)⟩
      | ok w =>
        obtain rfl := Memory.enqueue_ok hqueue
        exact ⟨_, _, _, rfl, Nat.le_succ _, Or.inr (Or.inr ⟨rfl, mail,
          rt.entropy.idAt rt.entropy.drawn, rfl, rfl⟩)⟩

/-- A registration that fails after the user was kept takes the user back, and one that
fails after the activation was kept takes back both. -/
theorem register_ends {input : SignupInput}
    (free : rt.world.memory.existsByEmail input.email = .ok false)
    (fresh : DrawsNew New ((s.register input).runOn (UnitOfWork.empty _ id)) rt) :
    StepEnds (fun user => AccountCall.Effect s rt.world New (.signup input) (.registered user))
      rt.world.memory
      (Virtual.runOn ((s.register input).runOn (UnitOfWork.empty _ id)) rt) := by
  unfold DrawsNew at fresh
  simp only [register_eq, Step.runOn_bind, Step.runOn_lift, PasswordHasher.runOn_hash] at fresh ⊢
  cases hhash : rt.world.hash input.password with
  | error e => exact .failed rfl
  | ok hash =>
    simp only [hhash, UserStore.runOn_save] at fresh ⊢
    cases hsave : rt.world.memory.saveUser (rt.entropy.idAt rt.entropy.drawn)
        (User.new input.name input.email hash) with
    | error e => exact .failed rfl
    | ok w =>
      obtain rfl := Memory.saveUser_ok hsave
      simp only [hsave, Memory.outcome_ok, storedId_kept, Virtual.runOn_attempt_pure,
        Virtual.runOn_attempt_lift, runOn_freshCredential, User.keptId_new,
        UnitOfWork.register, Runtime.withMemory_entropy, Runtime.drew_drawn,
        Runtime.drew_tokenAt] at fresh ⊢
      obtain ⟨r, u₁, rt₁, hrun, hdrawn, hcases⟩ := keepAndMail_cases _ .activation
        { token := rt.entropy.tokenAt (rt.entropy.drawn + 1),
          userId := rt.entropy.idAt rt.entropy.drawn }
        (activationMail _ s.config.activationUrl _) _ _
      rw [hrun] at fresh ⊢
      have hdrawn : rt.entropy.drawn + 1 + 1 ≤ rt₁.entropy.drawn := hdrawn
      obtain ⟨⟨hid, -⟩, -⟩ := fresh rt.entropy.drawn (Nat.le_refl _) (Nat.lt_of_succ_lt hdrawn)
      obtain ⟨⟨-, htoken⟩, hnew⟩ := fresh (rt.entropy.drawn + 1) (Nat.le_succ _) hdrawn
      rcases hcases with ⟨e, rfl, rfl, hmemory⟩ | ⟨e, rfl, rfl, hmemory⟩
        | ⟨rfl, mail, mailId, hmail, hmemory⟩
      · refine .failed ?_
        rw [hmemory]
        exact Memory.undo_keepUser _ _ _
      · refine .failed ?_
        rw [hmemory]
        exact Memory.undo_user_then_keep ⟨_, _⟩ (htoken .activation)
      · refine .succeeded ?_
        rw [hmemory]
        exact .signedUp free hid hhash rfl (htoken .activation) hnew hmail

/-- A recovery that cannot be mailed is taken back. -/
theorem openRecovery_ends {email : String} {user : User} {owner : Uuid}
    (found : rt.world.memory.findByEmail email = .ok (some user)) (named : user.id = some owner)
    (fresh : DrawsNew New ((s.openRecovery user owner).runOn (UnitOfWork.empty _ id)) rt) :
    StepEnds (fun _ => AccountCall.Effect s rt.world New (.createRecovery email) .done)
      rt.world.memory
      (Virtual.runOn ((s.openRecovery user owner).runOn (UnitOfWork.empty _ id)) rt) := by
  unfold DrawsNew at fresh
  simp only [openRecovery_eq, Step.runOn_bind, Step.runOn_lift, Virtual.runOn_attempt_lift,
    runOn_freshCredential] at fresh ⊢
  obtain ⟨r, u₁, rt₁, hrun, hdrawn, hcases⟩ := keepAndMail_cases rt.drew .recovery
    { token := rt.entropy.tokenAt rt.entropy.drawn, userId := owner }
    (recoveryMail user.email s.config.passwordRecoveryUrl _) ()
    (UnitOfWork.empty Memory.Kinds id)
  rw [hrun] at fresh ⊢
  obtain ⟨⟨-, htoken⟩, hnew⟩ := fresh rt.entropy.drawn (Nat.le_refl _) hdrawn
  rcases hcases with ⟨e, rfl, rfl, hmemory⟩ | ⟨e, rfl, rfl, hmemory⟩
    | ⟨rfl, mail, mailId, hmail, hmemory⟩
  · refine .failed ?_
    rw [hmemory]
    rfl
  · refine .failed ?_
    rw [hmemory]
    exact Memory.undo_keep ⟨_, owner⟩ (htoken .recovery)
  · refine .succeeded ?_
    rw [hmemory]
    exact .recoveryOpened found named (htoken .recovery) hnew hmail

/-- An activation that cannot be used up leaves the user as it was. -/
theorem consumeActivation_ends {token : String} {activation : Credential}
    (found : rt.world.memory.activations.get? token = some activation) :
    StepEnds (fun _ => AccountCall.Effect s rt.world New (.activate token) .done) rt.world.memory
      (Virtual.runOn ((consumeActivation activation : Step Memory.Kinds Premises.Run Unit).runOn
        (UnitOfWork.empty _ id)) rt) := by
  simp only [consumeActivation, Step.runOn_bind, UserStore.runOn_activate]
  cases hactivate : rt.world.memory.activateUser activation.userId with
  | error e => exact .failed rfl
  | ok w =>
    obtain ⟨user, known, rfl⟩ := Memory.activateUser_ok hactivate
    simp only [Memory.outcome_ok, UnitOfWork.register, CredentialStore.runOn_delete,
      Runtime.withMemory_memory]
    cases hdelete : (rt.world.memory.keepUser activation.userId
        { user with isActive := true }).deleteCredential .activation activation.token with
    | error e =>
      refine .failed ?_
      have hundo := Memory.undo_keepUser rt.world.memory activation.userId
        { user with isActive := true }
      rw [known] at hundo
      exact hundo
    | ok w =>
      refine .succeeded ?_
      rcases Memory.deleteCredential_ok hdelete with ⟨-, rfl⟩ | ⟨c, -, rfl⟩
      · exact .activated found known (Or.inl rfl)
      · exact .activated found known (Or.inr rfl)

/-- Only keeping the new password can fail in a recovery. -/
theorem consumeRecovery_ends {input : RecoverInput} {recovery : Credential} {user : User}
    {hash : String} (found : rt.world.memory.recoveries.get? input.token = some recovery)
    (known : rt.world.memory.users.get? recovery.userId = some user)
    (hashed : rt.world.hash input.newPassword = .ok hash) :
    StepEnds (fun _ => AccountCall.Effect s rt.world New (.recoverPassword input) .done)
      rt.world.memory
      (Virtual.runOn ((consumeRecovery (user.withPasswordHash hash) recovery :
        Step Memory.Kinds Premises.Run Unit).runOn (UnitOfWork.empty _ id)) rt) := by
  simp only [consumeRecovery, Step.runOn_bind, UserStore.runOn_save]
  cases hsave : rt.world.memory.saveUser (rt.entropy.idAt rt.entropy.drawn)
      (user.withPasswordHash hash) with
  | error e => exact .failed rfl
  | ok w =>
    obtain rfl := Memory.saveUser_ok hsave
    simp only [Memory.outcome_ok, UnitOfWork.register, CredentialStore.runOn_delete,
      Runtime.withMemory_memory]
    obtain ⟨w, hdelete⟩ := Memory.deleteCredential_recovery
      (s := rt.world.memory.keepUser ((user.withPasswordHash hash).keptId
          (rt.entropy.idAt rt.entropy.drawn))
        ((user.withPasswordHash hash).kept (rt.entropy.idAt rt.entropy.drawn))) recovery.token
    rw [hdelete]
    refine .succeeded ?_
    rcases Memory.deleteCredential_ok hdelete with ⟨-, rfl⟩ | ⟨c, -, rfl⟩
    · exact .recovered found known hashed (Or.inl rfl)
    · exact .recovered found known hashed (Or.inr rfl)

/-! ## The workflows -/

theorem signup_ends {input : SignupInput} (fresh : DrawsNew New (s.signup input).run rt) :
    Ends (fun user => AccountCall.Effect s rt.world New (.signup input) (.registered user))
      rt.world.memory (Virtual.runOn (s.signup input).run rt) := by
  unfold DrawsNew at fresh
  rw [signup, Virtual.runOn_attempt_bind, UserStore.runOn_existsByEmail] at fresh ⊢
  cases free : rt.world.memory.existsByEmail input.email with
  | error e => exact .failed rfl
  | ok taken =>
    cases taken with
    | true => exact .failed rfl
    | false =>
      rw [free] at fresh
      have rest : DrawsNew New _ rt := fresh
      exact Ends.bind (StepEnds.perform
        (s.register_ends (UnitOfWork.opened rt) free (rest.first fun _ _ => rfl).perform))
        fun _ _ fits => .succeeded fits

theorem activate_ends {token : String} :
    Ends (fun _ => AccountCall.Effect s rt.world New (.activate token) .done)
      rt.world.memory (Virtual.runOn (activate token).run rt) := by
  rw [activate, Virtual.runOn_attempt_bind, CredentialStore.runOn_find]
  cases found : rt.world.memory.findCredential .activation token with
  | none => exact .failed rfl
  | some activation =>
    exact Ends.bind (StepEnds.perform (s.consumeActivation_ends (UnitOfWork.opened rt) found))
      fun _ _ fits => .succeeded fits

/-- Whether a login is let in as a user, and under which id. -/
structure LetsIn (input : LoginInput) (user : User) (owner : Uuid) : Prop where
  found : rt.world.memory.findByEmail input.email = .ok (some user)
  accepted : rt.world.verify input.password user.passwordHash = .ok true
  named : user.id = some owner
  accessEnds : (rt.clock.after? s.tokens.accessTtl).isSome
  refreshEnds : (rt.clock.after? s.tokens.refreshTtl).isSome

/-- A login that is let in gets tokens for the id; any other gets none. -/
theorem login_cases (input : LoginInput) :
    ∃ r rt₁, Virtual.runOn (s.login input).run rt = (r, rt₁) ∧ rt₁.world = rt.world
      ∧ ((∃ user owner pair, s.LetsIn rt input user owner ∧ r = .ok (.ok pair)
            ∧ pair.SignedFor rt.world.signer.sign owner)
        ∨ (∀ user owner, ¬ s.LetsIn rt input user owner) ∧ ∀ pair, r ≠ .ok (.ok pair)) := by
  rw [login, Virtual.runOn_attempt_bind, UserStore.runOn_findByEmail]
  rcases hfind : rt.world.memory.findByEmail input.email with e | _ | user
  · refine ⟨_, _, rfl, rfl, Or.inr ⟨?_, nofun⟩⟩
    intro user owner h
    exact nomatch hfind.symm.trans h.found
  · refine ⟨_, _, rfl, rfl, Or.inr ⟨?_, nofun⟩⟩
    intro user owner h
    exact nomatch hfind.symm.trans h.found
  · have same : ∀ {other owner}, s.LetsIn rt input other owner → other = user := by
      intro other owner h
      exact (Option.some.inj (Except.ok.inj (hfind.symm.trans h.found))).symm
    dsimp only
    rw [Virtual.runOn_attempt_bind, PasswordHasher.runOn_verify]
    rcases hverify : rt.world.verify input.password user.passwordHash with e | _ | _
    · refine ⟨_, _, rfl, rfl, Or.inr ⟨?_, nofun⟩⟩
      intro other owner h
      obtain rfl := same h
      exact nomatch hverify.symm.trans h.accepted
    · refine ⟨_, _, rfl, rfl, Or.inr ⟨?_, nofun⟩⟩
      intro other owner h
      obtain rfl := same h
      exact nomatch hverify.symm.trans h.accepted
    · dsimp only
      rw [if_pos rfl, Virtual.runOn_attempt_bind, storedId]
      cases hid : user.id with
      | none =>
        refine ⟨_, _, rfl, rfl, Or.inr ⟨?_, nofun⟩⟩
        intro other owner h
        obtain rfl := same h
        exact nomatch hid.symm.trans h.named
      | some owner =>
        obtain ⟨rt₁, quiet, ⟨hnone, hissue⟩ | ⟨pair, hissue, haccess, hrefresh, hsigned⟩⟩ :=
          s.tokens.issue_cases rt (fun w c => w.signer.sign c) TokenSigner.runOn_sign owner
        · refine ⟨_, _, hissue, quiet.world, Or.inr ⟨?_, nofun⟩⟩
          intro other owner h
          rcases hnone with hnone | hnone
          · exact nomatch hnone ▸ h.accessEnds
          · exact nomatch hnone ▸ h.refreshEnds
        · exact ⟨_, _, hissue, quiet.world, Or.inl
            ⟨user, owner, pair, ⟨hfind, hverify, hid, haccess, hrefresh⟩, rfl, hsigned⟩⟩

theorem login_ends {input : LoginInput} :
    Ends (fun pair => AccountCall.Effect s rt.world New (.login input) (.admitted pair))
      rt.world.memory (Virtual.runOn (s.login input).run rt) := by
  obtain ⟨r, rt₁, hrun, hworld, -⟩ := s.login_cases rt input
  rw [hrun]
  rcases r with c | e | pair
  · exact .givenUp (by rw [hworld])
  · exact .failed (by rw [hworld])
  · refine .succeeded ?_
    rw [hworld]
    exact .loggedIn

theorem createRecovery_ends {email : String}
    (fresh : DrawsNew New (s.createRecovery email).run rt) :
    Ends (fun _ => AccountCall.Effect s rt.world New (.createRecovery email) .done)
      rt.world.memory (Virtual.runOn (s.createRecovery email).run rt) := by
  unfold DrawsNew at fresh
  rw [createRecovery, Virtual.runOn_attempt_bind, UserStore.runOn_findByEmail] at fresh ⊢
  rcases hfind : rt.world.memory.findByEmail email with e | _ | user
  · exact .failed rfl
  · exact .failed rfl
  · simp only [hfind] at fresh ⊢
    rw [Virtual.runOn_attempt_bind, storedId] at fresh ⊢
    cases hid : user.id with
    | none => exact .failed rfl
    | some id =>
      rw [hid] at fresh
      have rest : DrawsNew New _ rt := fresh
      exact Ends.bind (StepEnds.perform
        (s.openRecovery_ends (UnitOfWork.opened rt) hfind hid
          (rest.first fun _ _ => rfl).perform))
        fun _ _ fits => .succeeded fits

theorem recoverPassword_ends {input : RecoverInput} :
    Ends (fun _ => AccountCall.Effect s rt.world New (.recoverPassword input) .done)
      rt.world.memory (Virtual.runOn (recoverPassword input).run rt) := by
  rw [recoverPassword, Virtual.runOn_attempt_bind, CredentialStore.runOn_find]
  cases found : rt.world.memory.findCredential .recovery input.token with
  | none => exact .failed rfl
  | some recovery =>
    dsimp only
    rw [Virtual.runOn_attempt_bind, UserStore.runOn_findById]
    rcases known : rt.world.memory.findById recovery.userId with e | _ | user
    · exact .failed rfl
    · exact .failed rfl
    · dsimp only
      rw [Virtual.runOn_attempt_bind, PasswordHasher.runOn_verify]
      rcases rt.world.verify input.oldPassword user.passwordHash with e | _ | _
      · exact .failed rfl
      · exact .failed rfl
      · dsimp only
        rw [if_pos rfl, Virtual.runOn_attempt_bind, PasswordHasher.runOn_hash]
        cases hashed : rt.world.hash input.newPassword with
        | error e => exact .failed rfl
        | ok hash =>
          exact Ends.bind (StepEnds.perform
            (s.consumeRecovery_ends (UnitOfWork.opened rt) found (Memory.findById_ok known) hashed))
            fun _ _ fits => .succeeded fits

end AccountService

namespace AccountCall

/-- A call fails and changes nothing, or it succeeds with its effect. -/
theorem ends (s : AccountService) (call : AccountCall) {rt : Runtime Premises}
    (fresh : DrawsUnused (call.run s).run rt) :
    Ends (call.Effect s rt.world (Drawn (call.run s).run rt)) rt.world.memory
      ((call.run s).run.runOn rt) := by
  have fresh := fresh.drawsNew
  generalize Drawn (call.run s).run rt = New at fresh ⊢
  cases call with
  | signup input =>
    exact Ends.bind (s.signup_ends rt (fresh.first fun _ _ => rfl)) fun _ _ fits => .succeeded fits
  | activate token =>
    exact Ends.bind (s.activate_ends rt) fun _ _ fits => .succeeded fits
  | login input =>
    exact Ends.bind (s.login_ends rt) fun _ _ fits => .succeeded fits
  | createRecovery email =>
    exact Ends.bind (s.createRecovery_ends rt (fresh.first fun _ _ => rfl))
      fun _ _ fits => .succeeded fits
  | recoverPassword input =>
    exact Ends.bind (s.recoverPassword_ends rt) fun _ _ fits => .succeeded fits

end AccountCall

end Gatehouse
