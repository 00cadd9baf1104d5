/-
  Gatehouse/Proofs/Account/Discretion.lean --- what the log tells of a call.

  The log of a call is given by little: the workflow, the masked address if the call has
  one, the place where it ended, and how --- a success by the user it is about, a failure
  by itself.  Nothing else that the call brings or the stores keep is written to the log,
  so two calls that agree in this little cannot be told apart in it.  An event has no id of
  its unit of work here.

  A failure is told by its message.  Those that a unit of work can meet are fixed, but for
  a link base of the configuration and for what a hasher says.

  Main definitions: `Email.Alike`, `AccountCall.Alike`, `AccountCall.outcome`,
  `CallView.told`, `AccountService.Mishap`.
  Main statements: `AccountCall.tells`, `AccountCall.logged_alike`.
-/
import Gatehouse.Proofs.Account.Outcome
import Gatehouse.Proofs.Work.Settling

set_option autoImplicit false

namespace Gatehouse

/-! ## Addresses that are masked alike -/

namespace Email

/-- Whether two addresses differ at most in what stands after the first character and
before the first at sign, which is of one length in both. -/
def Alike (a b : String) : Prop :=
  a = b ∨ ∃ first rest rest' domain, a.toList = first :: rest ++ '@' :: domain
    ∧ b.toList = first :: rest' ++ '@' :: domain ∧ '@' ∉ first :: rest ∧ '@' ∉ first :: rest'
    ∧ rest.length = rest'.length

/-- Of a part before the first at sign its first character and its length remain. -/
theorem maskChars_append {first : Char} {rest domain : List Char} (h : '@' ∉ first :: rest) :
    maskChars (first :: rest ++ '@' :: domain)
      = (if rest.length = 0 then '*' else first)
          :: (List.replicate rest.length '*' ++ '@' :: domain) := by
  rw [maskChars, splitFirst?_append h]
  cases rest with
  | nil => rfl
  | cons second rest => rfl

theorem Alike.mask_eq {a b : String} (h : Alike a b) : mask a = mask b := by
  obtain rfl | ⟨first, rest, rest', domain, ha, hb, hrest, hrest', hlength⟩ := h
  · rfl
  · rw [mask, mask, ha, hb, maskChars_append hrest, maskChars_append hrest', hlength]

end Email

/-! ## What a call shows -/

/-- A call without its secrets: the workflow, and the address as it is logged. -/
inductive CallView where
  | signup (address : String)
  | activate
  | login (address : String)
  | createRecovery (address : String)
  | recoverPassword
  deriving DecidableEq, Repr, Inhabited

/-- Where a call ends. -/
inductive Place where
  /-- What the call is about cannot be read. -/
  | lookup
  /-- What the call is about is not there, or for a signup it is. -/
  | refusal
  /-- The user of a recovery cannot be read. -/
  | ownerLookup
  /-- A recovery is for no user. -/
  | ownerRefusal
  /-- The password cannot be checked. -/
  | check
  /-- The password is wrong. -/
  | mismatch
  /-- A user that is kept has no id. -/
  | naming
  /-- A new password cannot be hashed, before anything is written. -/
  | hashing
  /-- The unit of work; for a login, the tokens. -/
  | work
  deriving DecidableEq, Repr, Inhabited

/-- Whether a call ends before its unit of work. -/
def Place.isEarly : Place → Bool
  | .work => false
  | _ => true

namespace AccountCall

/-- What a call shows of itself. -/
def view : AccountCall → CallView
  | .signup input => .signup (Email.mask input.email)
  | .activate _ => .activate
  | .login input => .login (Email.mask input.email)
  | .createRecovery email => .createRecovery (Email.mask email)
  | .recoverPassword _ => .recoverPassword

/-- Whether two calls are of one workflow and their addresses, if they have one, are
alike.  Names, passwords and tokens are of no account. -/
def Alike : AccountCall → AccountCall → Prop
  | .signup input, .signup other => Email.Alike input.email other.email
  | .activate _, .activate _ => True
  | .login input, .login other => Email.Alike input.email other.email
  | .createRecovery email, .createRecovery other => Email.Alike email other
  | .recoverPassword _, .recoverPassword _ => True
  | _, _ => False

theorem Alike.view_eq {call other : AccountCall} (h : call.Alike other) :
    call.view = other.view := by
  cases call with
  | signup input =>
    cases other with
    | signup _ => exact congrArg CallView.signup (Email.Alike.mask_eq h)
    | _ => exact h.elim
  | activate token =>
    cases other with
    | activate _ => rfl
    | _ => exact h.elim
  | login input =>
    cases other with
    | login _ => exact congrArg CallView.login (Email.Alike.mask_eq h)
    | _ => exact h.elim
  | createRecovery email =>
    cases other with
    | createRecovery _ => exact congrArg CallView.createRecovery (Email.Alike.mask_eq h)
    | _ => exact h.elim
  | recoverPassword input =>
    cases other with
    | recoverPassword _ => rfl
    | _ => exact h.elim

/-- The place where a call ends, which the stores and the hasher decide. -/
def place (w : Premises) : AccountCall → Place
  | .signup input => match w.memory.existsByEmail input.email with
    | .error _ => .lookup
    | .ok true => .refusal
    | .ok false => .work
  | .activate token => match w.memory.findCredential .activation token with
    | none => .refusal
    | some _ => .work
  | .login input => match w.memory.findByEmail input.email with
    | .error _ => .lookup
    | .ok none => .refusal
    | .ok (some user) => match w.verify input.password user.passwordHash, user.id with
      | .error _, _ => .check
      | .ok false, _ => .mismatch
      | .ok true, none => .naming
      | .ok true, some _ => .work
  | .createRecovery email => match w.memory.findByEmail email with
    | .error _ => .lookup
    | .ok none => .refusal
    | .ok (some user) => match user.id with
      | none => .naming
      | some _ => .work
  | .recoverPassword input => match w.memory.findCredential .recovery input.token with
    | none => .refusal
    | some recovery => match w.memory.findById recovery.userId with
      | .error _ => .ownerLookup
      | .ok none => .ownerRefusal
      | .ok (some user) => match w.verify input.oldPassword user.passwordHash with
        | .error _ => .check
        | .ok false => .mismatch
        | .ok true => match w.hash input.newPassword with
          | .error _ => .hashing
          | .ok _ => .work

/-- The user that a call is about when it succeeds. -/
def subject? (w : Premises) : AccountCall → AccountAnswer → Option Uuid
  | .signup _, .registered user => user.id
  | .signup _, _ => none
  | .activate token, _ => (w.memory.findCredential .activation token).map Credential.userId
  | .login input, _ => (w.memory.findByEmail input.email).toOption.join.bind User.id
  | .createRecovery email, _ => (w.memory.findByEmail email).toOption.join.bind User.id
  | .recoverPassword input, _ =>
      (w.memory.findCredential .recovery input.token).map Credential.userId

/-- What is known of a call after it: where it ended, and either the user it was about,
or how it failed or was given up. -/
def outcome (s : AccountService) (rt : Runtime Premises) (call : AccountCall) :
    Place × Except Cut (Except Failure (Option Uuid)) :=
  (call.place rt.world, ((call.run s).run.runOn rt).1.map (Except.map (call.subject? rt.world)))

/-- The events that a call adds to the log. -/
def logged (s : AccountService) (rt : Runtime Premises) (call : AccountCall) : List LogEvent :=
  ((call.run s).run.runOn rt).2.events.drop rt.events.length

end AccountCall

/-! ## What is told -/

/-- The event of a workflow. -/
def accountNote (level : LogLevel) (message : String) (fields : List (String × String)) :
    LogEvent :=
  { level, source := .accounts, message, fields := fields.map fun f => (f.1, .text f.2) }

/-- A mail was queued. -/
def queuedNote (address subject : String) : LogEvent :=
  { level := .debug, source := .mailQueue, message := "Mail queued"
    fields := [("address", .text address), ("subject", .text subject)] }

namespace CallView

/-- The mail that a workflow queues. -/
def queued : CallView → List LogEvent
  | .signup address => [queuedNote address "User activation"]
  | .createRecovery address => [queuedNote address "Password recovery"]
  | _ => []

/-- A workflow has succeeded for a user. -/
def done (user : Uuid) : CallView → LogEvent
  | .signup address => accountNote .info "User signed up"
      [("user_id", "Some(" ++ user.text ++ ")"), ("email", address)]
  | .activate => accountNote .info "User activated" [("user_id", user.text)]
  | .login _ => TokenService.issuedNote user
  | .createRecovery address => accountNote .info "Password recovery created"
      [("user_id", user.text), ("email", address)]
  | .recoverPassword => accountNote .info "Password recovered" [("user_id", user.text)]

/-- All that the log tells of a call: only a login tells of a refusal; any other workflow
tells of its unit of work and, at the end, of its success. -/
def told (view : CallView) : Place × Except Cut (Except Failure (Option Uuid)) → List LogEvent
  | (.refusal, _) => match view with
    | .login address => [accountNote .debug "Login for unknown email" [("email", address)]]
    | _ => []
  | (.mismatch, _) => match view with
    | .login address => [accountNote .debug "Login with wrong password" [("email", address)]]
    | _ => []
  | (.work, .ok (.ok (some user))) => match view with
    | .login _ => [view.done user]
    | _ => UnitOfWork.openedNote :: view.queued ++ [UnitOfWork.committedNote, view.done user]
  | (.work, .ok (.error e)) =>
      [UnitOfWork.openedNote, UnitOfWork.failedNote e, UnitOfWork.rolledBackNote]
  | _ => []

end CallView

/-! ## Failures of a unit of work -/

/-- The failures of the writes; each has one text. -/
def Memory.writeFailures : List Failure :=
  [userSaveFailure, unknownUserFailure, credentialSaveFailure .activation,
    credentialSaveFailure .recovery, activationDeleteFailure, queueFailure]

namespace Memory

variable {s : Memory} {e : Failure}

theorem saveUser_error {fresh : Uuid} {user : User} (h : s.saveUser fresh user = .error e) :
    e ∈ writeFailures := by
  unfold saveUser at h
  split at h
  · obtain rfl := Except.error.inj h
    simp [writeFailures]
  · cases h

theorem activateUser_error {id : Uuid} (h : s.activateUser id = .error e) :
    e ∈ writeFailures := by
  unfold activateUser at h
  split at h
  · obtain rfl := Except.error.inj h
    simp [writeFailures]
  · cases h

theorem saveCredential_error {kind : CredentialKind} {c : Credential}
    (h : s.saveCredential kind c = .error e) : e ∈ writeFailures := by
  unfold saveCredential at h
  split at h
  · obtain rfl := Except.error.inj h
    cases kind <;> simp [writeFailures]
  · cases h

theorem deleteCredential_error {kind : CredentialKind} {token : String}
    (h : s.deleteCredential kind token = .error e) : e ∈ writeFailures := by
  unfold deleteCredential at h
  split at h
  · obtain rfl := Except.error.inj h
    simp [writeFailures]
  · split at h
    · cases h
    · cases h

theorem enqueue_error {fresh : Uuid} {mail : Mail} (h : s.enqueue fresh mail = .error e) :
    e ∈ writeFailures := by
  unfold enqueue at h
  split at h
  · obtain rfl := Except.error.inj h
    simp [writeFailures]
  · cases h

end Memory

/-- A link fails on its base alone. -/
theorem linkWithToken_error {base token : String} {e : Failure}
    (h : linkWithToken base token = .error e) (other : String) :
    linkWithToken base other = .error e := by
  unfold linkWithToken at h ⊢
  cases hparse : Url.parse base.toList with
  | ok u =>
    rw [hparse] at h
    cases h
  | error fault =>
    rw [hparse] at h
    exact h

/-- The ways in which a unit of work of an account workflow fails. -/
inductive AccountService.Mishap (s : AccountService) (hash : String → Except Failure String) :
    Failure → Prop
  /-- A write failed; the message is one of a few. -/
  | write {e : Failure} (h : e ∈ Memory.writeFailures) : Mishap s hash e
  /-- A configured link base is no address; the token is not told. -/
  | link {e : Failure} {base : String}
      (configured : base = s.config.activationUrl ∨ base = s.config.passwordRecoveryUrl)
      (h : ∀ token, linkWithToken base token = .error e) : Mishap s hash e
  /-- The hasher failed; the message is its own. -/
  | hasher {e : Failure} {password : String} (h : hash password = .error e) : Mishap s hash e

/-! ## The log of a unit of work -/

namespace UnitOfWork

variable (u : UnitOfWork Memory.Kinds) (rt : Runtime Premises)

/-- A failed step is told of, then undone. -/
theorem settle_error_told {α : Type} (e : Failure) :
    ∃ rt₁, Virtual.runOn (u.settle (.error e) : Premises.Run (Except Failure α)) rt
        = (.ok (.error e), rt₁)
      ∧ rt₁.events = rt.events ++ [failedNote e, rolledBackNote] := by
  have hsettle : (u.settle (.error e) : Premises.Run (Except Failure α))
      = log (failedNote e) >>= fun _ => u.rollback >>= fun _ => pure (.error e) := by
    rw [settle, failedNote]
    cases e.isClientError with
    | false => rfl
    | true => rfl
  simp only [hsettle, Virtual.runOn_bind, Virtual.runOn_log, runOn_rollback]
  exact ⟨_, rfl, List.append_assoc _ _ _⟩

end UnitOfWork

/-- How a step tells of itself: when it fails it has told nothing, and its failure is
`short`; when it succeeds it has told `lines`, and its result is `fit`. -/
inductive StepTells {α : Type} (short : Failure → Prop) (fit : α → Prop)
    (lines before : List LogEvent) :
    Except Cut (Except Failure α × UnitOfWork Memory.Kinds) × Runtime Premises → Prop
  | failed {e : Failure} {u : UnitOfWork Memory.Kinds} {rt : Runtime Premises}
      (quiet : rt.events = before) (why : short e) :
      StepTells short fit lines before (.ok (.error e, u), rt)
  | succeeded {a : α} {u : UnitOfWork Memory.Kinds} {rt : Runtime Premises}
      (tells : rt.events = before ++ lines) (fits : fit a) :
      StepTells short fit lines before (.ok (.ok a, u), rt)

/-- A unit of work tells of its beginning and its end, with what its step tells in
between. -/
theorem StepTells.perform {α : Type} {short : Failure → Prop} {fit : α → Prop}
    {lines : List LogEvent} {rt : Runtime Premises} {step : Step Memory.Kinds Premises.Run α}
    (h : StepTells short fit lines (rt.events ++ [UnitOfWork.openedNote])
      (Virtual.runOn (step.runOn (UnitOfWork.empty _ (UnitOfWork.nextId rt)))
        (UnitOfWork.opened rt))) :
    (∃ e rt₁, (UnitOfWork.perform step).run.runOn rt = (.ok (.error e), rt₁)
        ∧ rt₁.events = rt.events
            ++ [UnitOfWork.openedNote, UnitOfWork.failedNote e, UnitOfWork.rolledBackNote]
        ∧ short e)
      ∨ ∃ a rt₁, (UnitOfWork.perform step).run.runOn rt = (.ok (.ok a), rt₁)
        ∧ rt₁.events = rt.events
            ++ (UnitOfWork.openedNote :: lines ++ [UnitOfWork.committedNote])
        ∧ fit a := by
  rw [UnitOfWork.runOn_perform]
  generalize Virtual.runOn (step.runOn (UnitOfWork.empty _ (UnitOfWork.nextId rt)))
      (UnitOfWork.opened rt) = result at h
  cases h with
  | @failed e u rt₁ quiet why =>
    obtain ⟨rt₂, hsettle, hevents⟩ := UnitOfWork.settle_error_told (α := α) u rt₁ e
    refine Or.inl ⟨e, rt₂, hsettle, ?_, why⟩
    rw [hevents, quiet, List.append_assoc]
    rfl
  | @succeeded a u rt₁ tells fits =>
    refine Or.inr ⟨a, rt₁.logged UnitOfWork.committedNote, ?_, ?_, fits⟩
    · simp only [UnitOfWork.settle, Virtual.runOn_bind, UnitOfWork.runOn_commit]
      rfl
    · rw [Runtime.logged, tells]
      simp

namespace AccountService

variable (s : AccountService) (rt : Runtime Premises) {id : Uuid}

/-- A credential is kept silently; queueing the mail with its link is told of. -/
theorem keepAndMail_tells {α : Type} {fit : α → Prop} {a : α} (kind : CredentialKind)
    (c : Credential) (address subject lead : String) {base : String} (token : String)
    (configured : base = s.config.activationUrl ∨ base = s.config.passwordRecoveryUrl)
    (fits : fit a) (hash : String → Except Failure String) (u : UnitOfWork Memory.Kinds)
    {before : List LogEvent} (quiet : rt.events = before) :
    StepTells (s.Mishap hash) fit [queuedNote (Email.mask address) subject] before
      (Virtual.runOn ((keepAndMail kind c ((linkWithToken base token).map fun link =>
        Mail.new address subject (mailBody lead link)) a).runOn u) rt) := by
  subst quiet
  simp only [keepAndMail, Step.runOn_bind, CredentialStore.runOn_save]
  cases hkeep : rt.world.memory.saveCredential kind c with
  | error e => exact .failed rfl (.write (Memory.saveCredential_error hkeep))
  | ok w =>
    simp only [Memory.outcome_ok, Step.runOn_result]
    cases hlink : linkWithToken base token with
    | error e => exact .failed rfl (.link configured (linkWithToken_error hlink))
    | ok link =>
      simp only [Except.map, runOn_enqueueMail]
      cases hqueue : (rt.withMemory w.memory).world.memory.enqueue
          ((rt.withMemory w.memory).entropy.idAt (rt.withMemory w.memory).entropy.drawn)
          (Mail.new address subject (mailBody lead link)) with
      | error e => exact .failed rfl (.write (Memory.enqueue_error hqueue))
      | ok w => exact .succeeded rfl fits

/-- A registration tells of its mail alone. -/
theorem register_tells (input : SignupInput) :
    StepTells (s.Mishap rt.world.hash)
      (fun user => user.email = input.email ∧ ∃ owner, user.id = some owner)
      (CallView.signup (Email.mask input.email)).queued rt.events
      (Virtual.runOn ((s.register input).runOn (UnitOfWork.empty _ id)) rt) := by
  simp only [register_eq, Step.runOn_bind, Step.runOn_lift, PasswordHasher.runOn_hash]
  cases hhash : rt.world.hash input.password with
  | error e => exact .failed rfl (.hasher hhash)
  | ok hash =>
    simp only [UserStore.runOn_save]
    cases hsave : rt.world.memory.saveUser (rt.entropy.idAt rt.entropy.drawn)
        (User.new input.name input.email hash) with
    | error e => exact .failed rfl (.write (Memory.saveUser_error hsave))
    | ok w =>
      obtain rfl := Memory.saveUser_ok hsave
      simp only [Memory.outcome_ok, storedId_kept, Virtual.runOn_attempt_pure,
        Virtual.runOn_attempt_lift, runOn_freshCredential]
      refine s.keepAndMail_tells _ _ _ _ _ _ _ (Or.inl rfl) ?_ _ _ ?_
      · exact ⟨rfl, _, rfl⟩
      · rfl

/-- A new recovery tells of its mail alone. -/
theorem openRecovery_tells {user : User} {email : String} (found : user.email = email)
    (owner : Uuid) :
    StepTells (s.Mishap rt.world.hash) (fun _ => True)
      (CallView.createRecovery (Email.mask email)).queued rt.events
      (Virtual.runOn ((s.openRecovery user owner).runOn (UnitOfWork.empty _ id)) rt) := by
  subst found
  simp only [openRecovery_eq, Step.runOn_bind, Step.runOn_lift, Virtual.runOn_attempt_lift,
    runOn_freshCredential]
  refine s.keepAndMail_tells _ _ _ _ _ _ _ (Or.inr rfl) ?_ _ _ ?_
  · trivial
  · rfl

/-- An activation is used up silently. -/
theorem consumeActivation_tells (activation : Credential) :
    StepTells (s.Mishap rt.world.hash) (fun _ => True) CallView.activate.queued rt.events
      (Virtual.runOn ((consumeActivation activation : Step Memory.Kinds Premises.Run Unit).runOn
        (UnitOfWork.empty _ id)) rt) := by
  simp only [consumeActivation, Step.runOn_bind, UserStore.runOn_activate]
  cases hactivate : rt.world.memory.activateUser activation.userId with
  | error e => exact .failed rfl (.write (Memory.activateUser_error hactivate))
  | ok w =>
    simp only [Memory.outcome_ok, CredentialStore.runOn_delete, Runtime.withMemory_memory]
    cases hdelete : w.memory.deleteCredential .activation activation.token with
    | error e => exact .failed rfl (.write (Memory.deleteCredential_error hdelete))
    | ok w => exact .succeeded (List.append_nil _).symm trivial

/-- A recovery is used up silently. -/
theorem consumeRecovery_tells (user : User) (recovery : Credential) :
    StepTells (s.Mishap rt.world.hash) (fun _ => True) CallView.recoverPassword.queued rt.events
      (Virtual.runOn ((consumeRecovery user recovery :
        Step Memory.Kinds Premises.Run Unit).runOn (UnitOfWork.empty _ id)) rt) := by
  simp only [consumeRecovery, Step.runOn_bind, UserStore.runOn_save]
  cases hsave : rt.world.memory.saveUser (rt.entropy.idAt rt.entropy.drawn) user with
  | error e => exact .failed rfl (.write (Memory.saveUser_error hsave))
  | ok w =>
    simp only [Memory.outcome_ok, CredentialStore.runOn_delete, Runtime.withMemory_memory]
    obtain ⟨w', hdelete⟩ := Memory.deleteCredential_recovery (s := w.memory) recovery.token
    rw [hdelete]
    exact .succeeded (List.append_nil _).symm trivial

end AccountService

/-! ## The log of a workflow -/

/-- What the log tells of a workflow that ends at a place and whose result is about a
user, and how a unit of work of it fails. -/
structure Tells {α : Type} (s : AccountService) (rt : Runtime Premises) (view : CallView)
    (subject? : α → Option Uuid) (p : Place) (x : ExceptT Failure Premises.Run α) : Prop where
  events : (x.run.runOn rt).2.events
    = rt.events ++ view.told (p, (x.run.runOn rt).1.map (Except.map subject?))
  mishap : p = .work → ∀ e, (x.run.runOn rt).1 = .ok (.error e) → s.Mishap rt.world.hash e

namespace Tells

variable {α β : Type} {s : AccountService} {rt : Runtime Premises} {view : CallView}
  {subject? : β → Option Uuid} {p : Place} {e : Failure}

theorem of_run {x : ExceptT Failure Premises.Run β} (r : Except Cut (Except Failure β))
    (rt₁ : Runtime Premises) (hrun : x.run.runOn rt = (r, rt₁))
    (events : rt₁.events = rt.events ++ view.told (p, r.map (Except.map subject?)))
    (mishap : p = .work → ∀ e, r = .ok (.error e) → s.Mishap rt.world.hash e) :
    Tells s rt view subject? p x where
  events := by
    rw [hrun]
    exact events
  mishap := by
    rw [hrun]
    exact mishap

theorem congr {x y : ExceptT Failure Premises.Run β} (h : x.run.runOn rt = y.run.runOn rt)
    (tells : Tells s rt view subject? p y) : Tells s rt view subject? p x :=
  .of_run _ _ h tells.events tells.mishap

/-- What comes after a read. -/
theorem read {act : ExceptT Failure Premises.Run α} {f : α → ExceptT Failure Premises.Run β}
    {a : α} (hread : act.run.runOn rt = (.ok (.ok a), rt))
    (rest : Tells s rt view subject? p (f a)) : Tells s rt view subject? p (act >>= f) := by
  refine rest.congr ?_
  rw [Virtual.runOn_attempt_bind, hread]

/-- A refusal that tells nothing. -/
theorem refused (early : p.isEarly = true) (silent : view.told (p, .ok (.error e)) = []) :
    Tells s rt view subject? p (throw e : ExceptT Failure Premises.Run β) where
  events := (List.append_nil _).symm.trans (congrArg (rt.events ++ ·) silent.symm)
  mishap := by
    rintro rfl
    cases early

/-- A refusal that tells of itself first. -/
theorem noted {note : LogEvent} (early : p.isEarly = true)
    (told : view.told (p, .ok (.error e)) = [note]) :
    Tells s rt view subject? p
      (ExceptT.lift (log note) >>= fun _ => throw e : ExceptT Failure Premises.Run β) where
  events := congrArg (rt.events ++ ·) told.symm
  mishap := by
    rintro rfl
    cases early

/-- A read that fails tells nothing. -/
theorem unread {act : ExceptT Failure Premises.Run α} {f : α → ExceptT Failure Premises.Run β}
    (hread : act.run.runOn rt = (.ok (.error e), rt)) (early : p.isEarly = true)
    (silent : view.told (p, .ok (.error e)) = []) :
    Tells s rt view subject? p (act >>= f) := by
  refine (refused early silent).congr ?_
  rw [Virtual.runOn_attempt_bind, hread]
  rfl

/-- What is made of the result is not told. -/
theorem answered {x : ExceptT Failure Premises.Run α} {f : α → β}
    (tells : Tells s rt view (fun a => subject? (f a)) p x) :
    Tells s rt view subject? p (x >>= fun a => pure (f a)) := by
  obtain ⟨hevents, hmishap⟩ := tells
  rcases hrun : x.run.runOn rt with ⟨c | e | a, rt₁⟩
  · rw [hrun] at hevents
    refine .of_run (.error c) rt₁ ?_ hevents nofun
    rw [Virtual.runOn_attempt_bind, hrun]
  · rw [hrun] at hevents hmishap
    refine .of_run (.ok (.error e)) rt₁ ?_ hevents ?_
    · rw [Virtual.runOn_attempt_bind, hrun]
    · rintro work _ ⟨⟩
      exact hmishap work e rfl
  · rw [hrun] at hevents
    refine .of_run (.ok (.ok (f a))) rt₁ ?_ hevents nofun
    rw [Virtual.runOn_attempt_bind, hrun]
    rfl

/-- A unit of work, after which only its success is told of. -/
theorem perform {step : Step Memory.Kinds Premises.Run α} {fit : α → Prop}
    {f : α → ExceptT Failure Premises.Run β}
    (htold : ∀ user, view.told (.work, .ok (.ok (some user))) = UnitOfWork.openedNote
      :: view.queued ++ [UnitOfWork.committedNote, view.done user])
    (hstep : StepTells (s.Mishap rt.world.hash) fit view.queued
      (rt.events ++ [UnitOfWork.openedNote])
      (Virtual.runOn (step.runOn (UnitOfWork.empty _ (UnitOfWork.nextId rt)))
        (UnitOfWork.opened rt)))
    (hdone : ∀ a, fit a → ∃ b user, subject? b = some user
      ∧ ∀ rt₁, (f a).run.runOn rt₁ = (.ok (.ok b), rt₁.logged (view.done user))) :
    Tells s rt view subject? .work (UnitOfWork.perform step >>= f) := by
  obtain ⟨e, rt₁, hperform, hevents, hshort⟩ | ⟨a, rt₁, hperform, hevents, hfit⟩ := hstep.perform
  · refine .of_run (.ok (.error e)) rt₁ ?_ hevents ?_
    · rw [Virtual.runOn_attempt_bind, hperform]
    · rintro - _ ⟨⟩
      exact hshort
  · obtain ⟨b, user, hsubject, hdone⟩ := hdone a hfit
    refine .of_run (.ok (.ok b)) (rt₁.logged (view.done user)) ?_ ?_ nofun
    · rw [Virtual.runOn_attempt_bind, hperform]
      exact hdone rt₁
    · simp only [Except.map, hsubject, htold, Runtime.logged, hevents, List.append_assoc,
        List.cons_append, List.nil_append]

end Tells

namespace AccountService

variable (s : AccountService) (rt : Runtime Premises)

theorem signup_told (input : SignupInput) :
    Tells s rt (AccountCall.signup input).view User.id ((AccountCall.signup input).place rt.world)
      (s.signup input) := by
  rw [signup, AccountCall.place]
  rcases hexists : rt.world.memory.existsByEmail input.email with e | _ | _
  · exact .unread (by rw [UserStore.runOn_existsByEmail, hexists]) rfl rfl
  · refine .read (by rw [UserStore.runOn_existsByEmail, hexists]) ?_
    refine .perform (fun _ => rfl) (s.register_tells (UnitOfWork.opened rt) input) ?_
    rintro user ⟨hemail, owner, howner⟩
    refine ⟨user, owner, howner, ?_⟩
    intro rt₁
    rw [howner, hemail]
    rfl
  · refine .read (by rw [UserStore.runOn_existsByEmail, hexists]) ?_
    exact .refused rfl rfl

theorem activate_told (token : String) :
    Tells s rt (AccountCall.activate token).view
      (fun _ => (rt.world.memory.findCredential .activation token).map Credential.userId)
      ((AccountCall.activate token).place rt.world) (activate token) := by
  rw [activate, AccountCall.place]
  cases hfind : rt.world.memory.findCredential .activation token with
  | none =>
    refine .read (by rw [CredentialStore.runOn_find, hfind]) ?_
    exact .refused rfl rfl
  | some activation =>
    refine .read (by rw [CredentialStore.runOn_find, hfind]) ?_
    refine .perform (fun _ => rfl) (s.consumeActivation_tells (UnitOfWork.opened rt) activation) ?_
    intro _ _
    exact ⟨(), activation.userId, rfl, fun _ => rfl⟩

theorem createRecovery_told (email : String) :
    Tells s rt (AccountCall.createRecovery email).view
      (fun _ => (rt.world.memory.findByEmail email).toOption.join.bind User.id)
      ((AccountCall.createRecovery email).place rt.world) (s.createRecovery email) := by
  rw [createRecovery, AccountCall.place]
  rcases hfind : rt.world.memory.findByEmail email with e | _ | user
  · exact .unread (by rw [UserStore.runOn_findByEmail, hfind]) rfl rfl
  · refine .read (by rw [UserStore.runOn_findByEmail, hfind]) ?_
    exact .refused rfl rfl
  · refine .read (by rw [UserStore.runOn_findByEmail, hfind]) ?_
    dsimp only
    rw [storedId]
    cases hid : user.id with
    | none => exact .unread rfl rfl rfl
    | some owner =>
      refine .read rfl (.perform (fun _ => rfl) (s.openRecovery_tells (UnitOfWork.opened rt)
        (Memory.findByEmail_some hfind).1 owner) ?_)
      intro _ _
      exact ⟨(), owner, hid, fun _ => rfl⟩

theorem recoverPassword_told (input : RecoverInput) :
    Tells s rt (AccountCall.recoverPassword input).view
      (fun _ => (rt.world.memory.findCredential .recovery input.token).map Credential.userId)
      ((AccountCall.recoverPassword input).place rt.world) (recoverPassword input) := by
  rw [recoverPassword, AccountCall.place]
  cases hfind : rt.world.memory.findCredential .recovery input.token with
  | none =>
    refine .read (by rw [CredentialStore.runOn_find, hfind]) ?_
    exact .refused rfl rfl
  | some recovery =>
    refine .read (by rw [CredentialStore.runOn_find, hfind]) ?_
    dsimp only
    rcases howner : rt.world.memory.findById recovery.userId with e | _ | user
    · exact .unread (by rw [UserStore.runOn_findById, howner]) rfl rfl
    · refine .read (by rw [UserStore.runOn_findById, howner]) ?_
      exact .refused rfl rfl
    · refine .read (by rw [UserStore.runOn_findById, howner]) ?_
      dsimp only
      rcases hverify : rt.world.verify input.oldPassword user.passwordHash with e | _ | _
      · exact .unread (by rw [PasswordHasher.runOn_verify, hverify]) rfl rfl
      · refine .read (by rw [PasswordHasher.runOn_verify, hverify]) ?_
        exact .refused rfl rfl
      · refine .read (by rw [PasswordHasher.runOn_verify, hverify]) ?_
        dsimp only
        rw [if_pos rfl]
        cases hhash : rt.world.hash input.newPassword with
        | error e => exact .unread (by rw [PasswordHasher.runOn_hash, hhash]) rfl rfl
        | ok hash =>
          refine .read (by rw [PasswordHasher.runOn_hash, hhash]) ?_
          refine .perform (fun _ => rfl)
            (s.consumeRecovery_tells (UnitOfWork.opened rt) _ recovery) ?_
          intro _ _
          exact ⟨(), recovery.userId, rfl, fun _ => rfl⟩

/-- A pair that is issued is told of. -/
theorem issue_told (address : String) (owner : Uuid) :
    Tells s rt (.login address) (fun _ => some owner) .work (s.tokens.issue owner) := by
  obtain ⟨rt₁, hstate, -, hissue⟩ | ⟨pair, hissue, -⟩ :=
    s.tokens.runOn_issue rt (fun w c => w.signer.sign c) TokenSigner.runOn_sign owner
  · refine .of_run (.error .overflow) rt₁ hissue ?_ nofun
    obtain rfl | rfl := hstate
    · exact (List.append_nil _).symm
    · exact (List.append_nil _).symm
  · exact .of_run (.ok (.ok pair)) _ hissue rfl nofun

theorem login_told (input : LoginInput) :
    Tells s rt (AccountCall.login input).view
      (fun _ => (rt.world.memory.findByEmail input.email).toOption.join.bind User.id)
      ((AccountCall.login input).place rt.world) (s.login input) := by
  rw [login, AccountCall.place]
  rcases hfind : rt.world.memory.findByEmail input.email with e | _ | user
  · exact .unread (by rw [UserStore.runOn_findByEmail, hfind]) rfl rfl
  · refine .read (by rw [UserStore.runOn_findByEmail, hfind]) ?_
    exact .noted rfl rfl
  · refine .read (by rw [UserStore.runOn_findByEmail, hfind]) ?_
    dsimp only
    rcases hverify : rt.world.verify input.password user.passwordHash with e | _ | _
    · exact .unread (by rw [PasswordHasher.runOn_verify, hverify]) rfl rfl
    · refine .read (by rw [PasswordHasher.runOn_verify, hverify]) ?_
      exact .noted rfl rfl
    · refine .read (by rw [PasswordHasher.runOn_verify, hverify]) ?_
      rw [if_pos rfl, storedId]
      cases hid : user.id with
      | none => exact .unread rfl rfl rfl
      | some owner =>
        refine .read rfl ?_
        have hsubject : (Except.ok (some user) : Except Failure _).toOption.join.bind User.id
            = some owner := hid
        rw [hsubject]
        exact s.issue_told rt _ owner

end AccountService

/-! ## Two calls -/

namespace AccountCall

/-- What the log tells of any call. -/
theorem tells (s : AccountService) (rt : Runtime Premises) (call : AccountCall) :
    Tells s rt call.view (call.subject? rt.world) (call.place rt.world) (call.run s) := by
  cases call with
  | signup input => exact .answered (s.signup_told rt input)
  | activate token => exact .answered (s.activate_told rt token)
  | login input => exact .answered (s.login_told rt input)
  | createRecovery email => exact .answered (s.createRecovery_told rt email)
  | recoverPassword input => exact .answered (s.recoverPassword_told rt input)

/-- What a call adds to the log is given by what it shows and how it ended. -/
theorem logged_eq (s : AccountService) (rt : Runtime Premises) (call : AccountCall) :
    call.logged s rt = call.view.told (call.outcome s rt) := by
  rw [logged, (call.tells s rt).events, List.drop_left]
  rfl

/-- The outcome of a call that succeeds. -/
theorem outcome_of_subject {call : AccountCall} {s : AccountService} {rt : Runtime Premises}
    {p : Place} {user : Uuid} (hplace : call.place rt.world = p)
    (h : (((call.run s).run.runOn rt).1.toOption.bind Except.toOption).bind
      (call.subject? rt.world) = some user) :
    call.outcome s rt = (p, .ok (.ok (some user))) := by
  rw [outcome, hplace]
  rcases hrun : ((call.run s).run.runOn rt).1 with c | e | a
  · rw [hrun] at h
    cases h
  · rw [hrun] at h
    cases h
  · rw [hrun] at h
    exact congrArg (fun o => (p, Except.ok (Except.ok o))) h

/-- Two calls of one workflow whose addresses are masked alike, on any stores, with any
hashers, signers and draws, add the same to the log if they end at one place in one way:
with the same user or with the same failure.  A call only adds to the log.  What it adds
is given by its masked address and its end alone, and a failure there is one of a few, or
depends on a configured link base alone, or is the hasher's own. -/
theorem logged_alike {call other : AccountCall} (alike : call.Alike other)
    {s s' : AccountService} {rt rt' : Runtime Premises}
    (same : call.outcome s rt = other.outcome s' rt') :
    call.logged s rt = other.logged s' rt'
      ∧ ((call.run s).run.runOn rt).2.events = rt.events ++ call.logged s rt
      ∧ call.logged s rt = call.view.told (call.outcome s rt)
      ∧ ∀ e, call.outcome s rt = (.work, .ok (.error e)) → s.Mishap rt.world.hash e := by
  refine ⟨?_, ?_, call.logged_eq s rt, ?_⟩
  · rw [logged_eq, logged_eq, alike.view_eq, same]
  · rw [logged_eq]
    exact (call.tells s rt).events
  · intro e he
    obtain ⟨hplace, hends⟩ := Prod.mk.inj he
    refine (call.tells s rt).mishap hplace e ?_
    rcases hrun : ((call.run s).run.runOn rt).1 with c | e' | a
    · rw [hrun] at hends
      cases hends
    · rw [hrun] at hends
      cases hends
      rfl
    · rw [hrun] at hends
      cases hends

/-- Two people sign up, on stores of their own, with hashers of their own.  The log has the
new id and the form of the address, and neither the name nor the address. -/
theorem logged_alike_bob_bea :
    let bob : AccountCall := .signup { name := "Bob", email := "bob@yas.org", password := "two" }
    let bea : AccountCall := .signup { name := "Bea", email := "bea@yas.org", password := "three" }
    let rt : Runtime Premises := .new .counting (.plain .none)
    let rt' : Runtime Premises :=
      .new .counting { Premises.plain .none with hash := fun p => .ok ("%" ++ p) }
    bob.Alike bea ∧ bob.outcome .plain rt = bea.outcome .plain rt'
      ∧ bob.outcome .plain rt = (.work, .ok (.ok (some ⟨1#128⟩)))
      ∧ bob.logged .plain rt = bea.logged .plain rt'
      ∧ bob.logged .plain rt
        = (CallView.signup "b**@yas.org").told (.work, .ok (.ok (some ⟨1#128⟩))) := by
  intro bob bea rt rt'
  have alike : bob.Alike bea := Or.inr ⟨'b', ['o', 'b'], ['e', 'a'], "yas.org".toList,
    by decide +kernel, by decide +kernel, by decide, by decide, rfl⟩
  have hbob : bob.outcome .plain rt = (.work, .ok (.ok (some ⟨1#128⟩))) :=
    outcome_of_subject (by decide +kernel) (by decide +kernel)
  have hbea : bea.outcome .plain rt' = (.work, .ok (.ok (some ⟨1#128⟩))) :=
    outcome_of_subject (by decide +kernel) (by decide +kernel)
  have same := hbob.trans hbea.symm
  have hview : bob.view = .signup "b**@yas.org" := by decide +kernel
  obtain ⟨hlogged, -, htold, -⟩ := logged_alike alike same
  rw [hbob, hview] at htold
  exact ⟨alike, same, hbob, hlogged, htold⟩

end AccountCall

end Gatehouse
