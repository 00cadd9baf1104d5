/-
  Gatehouse/Proofs/Account/Premises.lean --- the service on stores in memory and any hasher.

  The stores are the ones kept in memory; what hashing and checking a password give
  is left open, failures included, and so are the generated ids and tokens.  For each
  collaborator one equation says what a call of it does.

  Main definitions: `Premises`, `Premises.Run`.
  Main statements: `Memory.runOn_write`, `UnitOfWork.runOn_perform_ok`,
  `UnitOfWork.runOn_perform_error`.
-/
import Gatehouse.Proofs.Running
import Gatehouse.Store.Collaborators

set_option autoImplicit false

namespace Gatehouse

/-- The stores, the hasher and the signer of a service. -/
structure Premises where
  memory : Memory
  /-- What hashing a password gives. -/
  hash : String → Except Failure String
  /-- What checking a password against a hash gives. -/
  verify : (password hash : String) → Except Failure Bool
  signer : JwtSigner

namespace Premises

/-- A run of the service. -/
abbrev Run := Virtual Premises

instance : MonadStateOf Memory Run where
  get := do return (← Virtual.world).memory
  set s := Virtual.modifyWorld fun w => { w with memory := s }
  modifyGet act := modifyGet fun rt =>
    let (value, memory) := act rt.world.memory
    (value, { rt with world := { rt.world with memory } })

instance : PasswordHasher Run where
  hash password := ExceptT.mk do return (← Virtual.world).hash password
  verify password hash := ExceptT.mk do return (← Virtual.world).verify password hash

instance : TokenSigner Run where
  sign claims := do return (← ExceptT.lift Virtual.world).signer.sign claims
  verify token := do (← ExceptT.lift Virtual.world).signer.verify token

/-- Empty stores, some of them out of order, with a hasher that writes a mark before the
password. -/
def plain (outages : Outages) : Premises where
  memory := { Memory.empty with outages }
  hash password := .ok ("#" ++ password)
  verify password hash := .ok (hash == "#" ++ password)
  signer := { secret := "secret", issuer := "yas" }

end Premises

/-- The service with links of a scheme of its own. -/
def AccountService.plain : AccountService where
  config := { activationUrl := "yas:activate", passwordRecoveryUrl := "yas:recover" }
  tokens := .default

/-- The state with other stores. -/
def Runtime.withMemory (rt : Runtime Premises) (s : Memory) : Runtime Premises :=
  { rt with world := { rt.world with memory := s } }

namespace Runtime

variable (rt : Runtime Premises) (s : Memory)

@[simp] theorem withMemory_memory : (rt.withMemory s).world.memory = s := rfl
@[simp] theorem withMemory_entropy : (rt.withMemory s).entropy = rt.entropy := rfl

end Runtime

/-! ## Reads and writes -/

/-- The unit of work after a write that may have to be undone. -/
def UnitOfWork.register {K : UnitKinds} (u : UnitOfWork K) : Option K.Undo → UnitOfWork K
  | some a => u.addUndo a
  | none => u

namespace Memory

section

variable {α : Type} (u : UnitOfWork Kinds) (rt : Runtime Premises)

/-- How a write leaves a step: it took effect and registered how it is undone, or it
changed nothing. -/
def outcome :
    Except Failure (Written α) → Except Cut (Except Failure α × UnitOfWork Kinds) × Runtime Premises
  | .ok w => (.ok (.ok w.value, u.register w.undo), rt.withMemory w.memory)
  | .error e => (.ok (.error e, u), rt)

@[simp] theorem outcome_ok (w : Written α) :
    outcome u rt (.ok w) = (.ok (.ok w.value, u.register w.undo), rt.withMemory w.memory) := rfl

theorem runOn_modifyGet (f : Memory → α × Memory) :
    Virtual.runOn (modifyGetThe Memory f : Premises.Run α) rt
      = (.ok (f rt.world.memory).1, rt.withMemory (f rt.world.memory).2) := rfl

theorem runOn_write (act : Memory → Except Failure (Written α)) :
    (Step.runOn (Memory.write act : Step Kinds Premises.Run α) u).runOn rt
      = outcome u rt (act rt.world.memory) := by
  rw [Memory.write, Step.runOn_bind, Step.runOn_lift, ExceptT.run_mk, runOn_modifyGet]
  cases act rt.world.memory with
  | error e => rfl
  | ok w => rcases w with ⟨value, memory, _ | a⟩ <;> rfl

/-- A write that needs an id draws one first, also when it fails. -/
theorem runOn_draw_write (act : Uuid → Memory → Except Failure (Written α)) :
    (Step.runOn (do
        let fresh ← Step.lift (ExceptT.lift freshId)
        Memory.write (act fresh) : Step Kinds Premises.Run α) u).runOn rt
      = outcome u rt.drew (act (rt.entropy.idAt rt.entropy.drawn) rt.world.memory) := by
  rw [Step.runOn_bind, Step.runOn_lift, Virtual.runOn_attempt_lift, Virtual.runOn_freshId]
  exact runOn_write u rt.drew (act _)

end

end Memory

/-! ## The users, the credentials and the mails -/

section

variable (u : UnitOfWork Memory.Kinds) (rt : Runtime Premises)

theorem UserStore.runOn_existsByEmail (email : String) :
    (UserStore.existsByEmail email : ExceptT Failure Premises.Run Bool).run.runOn rt
      = (.ok (rt.world.memory.existsByEmail email), rt) := rfl

theorem UserStore.runOn_findById (id : Uuid) :
    (UserStore.findById id : ExceptT Failure Premises.Run (Option User)).run.runOn rt
      = (.ok (rt.world.memory.findById id), rt) := rfl

theorem UserStore.runOn_findByEmail (email : String) :
    (UserStore.findByEmail email : ExceptT Failure Premises.Run (Option User)).run.runOn rt
      = (.ok (rt.world.memory.findByEmail email), rt) := rfl

theorem CredentialStore.runOn_find (kind : CredentialKind) (token : String) :
    (CredentialStore.find kind token :
        ExceptT Failure Premises.Run (Option Credential)).run.runOn rt
      = (.ok (.ok (rt.world.memory.findCredential kind token)), rt) := rfl

theorem UserStore.runOn_save (user : User) :
    (Step.runOn (UserStore.save user : Step Memory.Kinds Premises.Run User) u).runOn rt
      = Memory.outcome u rt.drew
          (rt.world.memory.saveUser (rt.entropy.idAt rt.entropy.drawn) user) :=
  Memory.runOn_draw_write u rt fun fresh s => s.saveUser fresh user

theorem UserStore.runOn_activate (id : Uuid) :
    (Step.runOn (UserStore.activate id : Step Memory.Kinds Premises.Run Unit) u).runOn rt
      = Memory.outcome u rt (rt.world.memory.activateUser id) :=
  Memory.runOn_write u rt fun s => s.activateUser id

theorem CredentialStore.runOn_save (kind : CredentialKind) (c : Credential) :
    (Step.runOn (CredentialStore.save kind c : Step Memory.Kinds Premises.Run Unit) u).runOn rt
      = Memory.outcome u rt (rt.world.memory.saveCredential kind c) :=
  Memory.runOn_write u rt fun s => s.saveCredential kind c

theorem CredentialStore.runOn_delete (kind : CredentialKind) (token : String) :
    (Step.runOn (CredentialStore.delete kind token : Step Memory.Kinds Premises.Run Unit) u).runOn
        rt
      = Memory.outcome u rt (rt.world.memory.deleteCredential kind token) :=
  Memory.runOn_write u rt fun s => s.deleteCredential kind token

theorem MailQueue.runOn_enqueue (mail : Mail) :
    (Step.runOn (MailQueue.enqueue mail : Step Memory.Kinds Premises.Run Unit) u).runOn rt
      = Memory.outcome u rt.drew
          (rt.world.memory.enqueue (rt.entropy.idAt rt.entropy.drawn) mail) :=
  Memory.runOn_draw_write u rt fun fresh s => s.enqueue fresh mail

theorem PasswordHasher.runOn_hash (password : String) :
    (PasswordHasher.hash password : ExceptT Failure Premises.Run String).run.runOn rt
      = (.ok (rt.world.hash password), rt) := rfl

theorem PasswordHasher.runOn_verify (password hash : String) :
    (PasswordHasher.verify password hash : ExceptT Failure Premises.Run Bool).run.runOn rt
      = (.ok (rt.world.verify password hash), rt) := rfl

theorem TokenSigner.runOn_sign (c : Claims) (rt : Runtime Premises) :
    (TokenSigner.sign c : ExceptT Failure Premises.Run String).run.runOn rt
      = (.ok (.ok (rt.world.signer.sign c)), rt) := rfl

/-- The event that tells of a queued mail. -/
def queuedEvent (mail : Mail) : LogEvent :=
  { level := .debug, source := .mailQueue, message := "Mail queued"
    fields := [("address", .text (Email.mask mail.address)), ("subject", .text mail.subject)] }

theorem runOn_enqueueMail (mail : Mail) :
    (Step.runOn (enqueueMail mail : Step Memory.Kinds Premises.Run Unit) u).runOn rt
      = match Memory.outcome u rt.drew
            (rt.world.memory.enqueue (rt.entropy.idAt rt.entropy.drawn) mail) with
        | (.ok (.ok (), u₁), rt₁) => (.ok (.ok (), u₁), rt₁.logged (queuedEvent mail))
        | other => other := by
  rw [enqueueMail, Step.runOn_bind, MailQueue.runOn_enqueue]
  cases rt.world.memory.enqueue (rt.entropy.idAt rt.entropy.drawn) mail <;> rfl

/-- The new credential of a user has the next token. -/
theorem AccountService.runOn_freshCredential (id : Uuid) :
    (AccountService.freshCredential id : Premises.Run Credential).runOn rt
      = (.ok { token := rt.entropy.tokenAt rt.entropy.drawn, userId := id }, rt.drew) := rfl

end

/-! ## The end of a unit of work -/

namespace UnitOfWork

variable {α : Type} (u : UnitOfWork Memory.Kinds) (rt : Runtime Premises)

theorem runOn_undoAll (undos : List Memory.Undo) :
    Virtual.runOn (undoAll undos : Premises.Run Unit) rt
      = (.ok (), rt.withMemory (undos.foldl Memory.undo rt.world.memory)) := by
  induction undos generalizing rt with
  | nil => rfl
  | cons a rest ih =>
    rw [undoAll, Virtual.runOn_bind]
    exact ih (rt.withMemory (rt.world.memory.undo a))

/-- Rolling back undoes every write, the first one first, and is told of. -/
theorem runOn_rollback :
    Virtual.runOn (u.rollback : Premises.Run Unit) rt
      = (.ok (), (rt.withMemory (u.undos.foldl Memory.undo rt.world.memory)).logged
          { level := .debug, source := .unitOfWork, message := "unit of work rolled back"
            fields := [] }) := by
  rcases u with ⟨id, _ | h, undos, finishers⟩
  · simp only [rollback, Virtual.runOn_bind, runOn_undoAll, logDebug, Virtual.runOn_log]
    rfl
  · exact nomatch h

/-- With stores in memory a unit of work is always committed, which is told of. -/
theorem runOn_commit :
    Virtual.runOn (u.commit : Premises.Run (Except Failure Unit)) rt
      = (.ok (.ok ()), rt.logged
          { level := .debug, source := .unitOfWork, message := "unit of work committed"
            fields := [] }) := by
  rcases u with ⟨id, _ | h, undos, _ | ⟨a, rest⟩⟩
  · rfl
  · exact nomatch a
  · exact nomatch h
  · exact nomatch h

variable {u rt}

/-- A step that succeeds keeps what it did. -/
theorem runOn_perform_ok {step : Step Memory.Kinds Premises.Run α} {a : α}
    {rt₁ : Runtime Premises}
    (h : Virtual.runOn (step.runOn (empty _ (nextId rt))) (opened rt) = (.ok (.ok a, u), rt₁)) :
    ∃ rt₂, (perform step).run.runOn rt = (.ok (.ok a), rt₂)
      ∧ rt₂.world = rt₁.world ∧ rt₂.entropy = rt₁.entropy := by
  rw [runOn_perform, h]
  simp only [settle, Virtual.runOn_bind, runOn_commit]
  exact ⟨_, rfl, rfl, rfl⟩

/-- A step that fails is undone as far as it got. -/
theorem runOn_perform_error {step : Step Memory.Kinds Premises.Run α} {e : Failure}
    {rt₁ : Runtime Premises}
    (h : Virtual.runOn (step.runOn (empty _ (nextId rt))) (opened rt) = (.ok (.error e, u), rt₁)) :
    ∃ rt₂, (perform step).run.runOn rt = (.ok (.error e), rt₂)
      ∧ rt₂.world = { rt₁.world with memory := u.undos.foldl Memory.undo rt₁.world.memory }
      ∧ rt₂.entropy = rt₁.entropy := by
  have hsettle : ∀ event : LogEvent, ∃ rt₂,
      Virtual.runOn (do
        log event
        u.rollback
        pure (.error e) : Premises.Run (Except Failure α)) rt₁ = (.ok (.error e), rt₂)
      ∧ rt₂.world = { rt₁.world with memory := u.undos.foldl Memory.undo rt₁.world.memory }
      ∧ rt₂.entropy = rt₁.entropy := by
    intro event
    simp only [Virtual.runOn_bind, Virtual.runOn_log, runOn_rollback]
    exact ⟨_, rfl, rfl, rfl⟩
  rw [runOn_perform, h]
  simp only [settle]
  split
  · exact hsettle _
  · exact hsettle _

end UnitOfWork

end Gatehouse
