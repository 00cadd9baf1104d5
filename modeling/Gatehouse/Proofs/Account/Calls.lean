/-
  Gatehouse/Proofs/Account/Calls.lean --- calls of the account workflows.

  A call of a workflow has an effect on the stores when it succeeds.  When it fails,
  the undo actions of its unit of work take back what it had done: each is registered
  by a write that took effect.  Undoing the save of a credential removes whatever is
  kept under its token, so the tokens that are generated on the way must not be in use
  already.

  Main definitions: `AccountCall`, `AccountCall.Effect`, `DrawsUnused`, `DrawsNew`,
  `StepEnds`, `Ends`.
  Main statements: `StepEnds.perform`, `Ends.bind`.
-/
import Gatehouse.Proofs.Account.Premises
import Gatehouse.Proofs.Store.Writes

set_option autoImplicit false

namespace Gatehouse

/-! ## Calls -/

/-- A call of an account workflow. -/
inductive AccountCall where
  | signup (input : SignupInput)
  | activate (token : String)
  | login (input : LoginInput)
  | createRecovery (email : String)
  | recoverPassword (input : RecoverInput)
  deriving DecidableEq, Repr, Inhabited

/-- What a workflow gives when it succeeds. -/
inductive AccountAnswer where
  | registered (u : User)
  | done
  | admitted (pair : TokenPair)
  deriving DecidableEq, Repr, Inhabited

namespace AccountCall

/-- The workflow of a call. -/
def run (s : AccountService) : AccountCall → ExceptT Failure Premises.Run AccountAnswer
  | .signup input => do return .registered (← s.signup input)
  | .activate token => do
      AccountService.activate token
      return .done
  | .login input => do return .admitted (← s.login input)
  | .createRecovery email => do
      s.createRecovery email
      return .done
  | .recoverPassword input => do
      AccountService.recoverPassword input
      return .done

/-- What a successful call found in the stores, and what it made of them; its new tokens
are among `New`. -/
inductive Effect (s : AccountService) (w : Premises) (New : String → Prop) :
    AccountCall → AccountAnswer → Memory → Prop
  | signedUp {input : SignupInput} {id mailId : Uuid} {token hash : String} {user : User}
      {mail : Mail} (free : w.memory.existsByEmail input.email = .ok false)
      (unused : w.memory.users.get? id = none)
      (hashed : w.hash input.password = .ok hash)
      (made : user = (User.new input.name input.email hash).kept id)
      (spare : w.memory.activations.get? token = none) (drawn : New token)
      (written : activationMail user.email s.config.activationUrl token = .ok mail) :
      Effect s w New (.signup input) (.registered user)
        (((w.memory.keepUser id user).keep .activation { token, userId := id }).queue
          { mail with id := some mailId })
  | activated {token : String} {activation : Credential} {user : User} {after : Memory}
      (found : w.memory.activations.get? token = some activation)
      (known : w.memory.users.get? activation.userId = some user)
      (consumed : after = w.memory.keepUser activation.userId { user with isActive := true }
        ∨ after = (w.memory.keepUser activation.userId { user with isActive := true }).remove
            .activation activation.token) :
      Effect s w New (.activate token) .done after
  | loggedIn {input : LoginInput} {pair : TokenPair} :
      Effect s w New (.login input) (.admitted pair) w.memory
  | recoveryOpened {email token : String} {user : User} {id mailId : Uuid} {mail : Mail}
      (found : w.memory.findByEmail email = .ok (some user)) (named : user.id = some id)
      (spare : w.memory.recoveries.get? token = none) (drawn : New token)
      (written : recoveryMail user.email s.config.passwordRecoveryUrl token = .ok mail) :
      Effect s w New (.createRecovery email) .done
        ((w.memory.keep .recovery { token, userId := id }).queue { mail with id := some mailId })
  | recovered {input : RecoverInput} {recovery : Credential} {user : User} {hash : String}
      {fresh : Uuid} {after : Memory}
      (found : w.memory.recoveries.get? input.token = some recovery)
      (known : w.memory.users.get? recovery.userId = some user)
      (hashed : w.hash input.newPassword = .ok hash)
      (consumed : after = w.memory.keepUser ((user.withPasswordHash hash).keptId fresh)
          ((user.withPasswordHash hash).kept fresh)
        ∨ after = (w.memory.keepUser ((user.withPasswordHash hash).keptId fresh)
            ((user.withPasswordHash hash).kept fresh)).remove .recovery recovery.token) :
      Effect s w New (.recoverPassword input) .done after

end AccountCall

/-! ## Generated ids and tokens -/

/-- Whether no user has the id of a draw, and no credential its token. -/
def Memory.Unused (s : Memory) (e : Entropy) (n : Nat) : Prop :=
  s.users.get? (e.idAt n) = none ∧ ∀ kind, (s.credentials kind).get? (e.tokenAt n) = none

/-- Whether nothing that a computation draws is in use when it starts. -/
def DrawsUnused {α : Type} (act : Premises.Run α) (rt : Runtime Premises) : Prop :=
  ∀ n, rt.entropy.drawn ≤ n → n < (act.runOn rt).2.entropy.drawn →
    rt.world.memory.Unused rt.entropy n

/-- Whether a computation draws a token. -/
def Drawn {α : Type} (act : Premises.Run α) (rt : Runtime Premises) (token : String) : Prop :=
  ∃ n, rt.entropy.drawn ≤ n ∧ n < (act.runOn rt).2.entropy.drawn ∧ token = rt.entropy.tokenAt n

/-- Whether nothing that a computation draws is in use when it starts, and all its tokens
are among `New`. -/
def DrawsNew {α : Type} (New : String → Prop) (act : Premises.Run α) (rt : Runtime Premises) :
    Prop :=
  ∀ n, rt.entropy.drawn ≤ n → n < (act.runOn rt).2.entropy.drawn →
    rt.world.memory.Unused rt.entropy n ∧ New (rt.entropy.tokenAt n)

theorem DrawsUnused.drawsNew {α : Type} {act : Premises.Run α} {rt : Runtime Premises}
    (h : DrawsUnused act rt) : DrawsNew (Drawn act rt) act rt := by
  intro n hle hlt
  exact ⟨h n hle hlt, n, hle, hlt, rfl⟩

/-! ## How steps and workflows end -/

/-- How a step ends that started on the stores `start` with an empty unit of work: if it
fails, what it registered until then takes back all that it did. -/
inductive StepEnds {α : Type} (Q : α → Memory → Prop) (start : Memory) :
    Except Cut (Except Failure α × UnitOfWork Memory.Kinds) × Runtime Premises → Prop
  | failed {e : Failure} {u : UnitOfWork Memory.Kinds} {rt : Runtime Premises}
      (h : u.undos.foldl Memory.undo rt.world.memory = start) :
      StepEnds Q start (.ok (.error e, u), rt)
  | succeeded {a : α} {u : UnitOfWork Memory.Kinds} {rt : Runtime Premises}
      (h : Q a rt.world.memory) : StepEnds Q start (.ok (.ok a, u), rt)

/-- How a workflow ends that started on the stores `start`: if it fails or is given up,
the stores are as they were. -/
inductive Ends {α : Type} (Q : α → Memory → Prop) (start : Memory) :
    Except Cut (Except Failure α) × Runtime Premises → Prop
  | givenUp {c : Cut} {rt : Runtime Premises} (h : rt.world.memory = start) :
      Ends Q start (.error c, rt)
  | failed {e : Failure} {rt : Runtime Premises} (h : rt.world.memory = start) :
      Ends Q start (.ok (.error e), rt)
  | succeeded {a : α} {rt : Runtime Premises} (h : Q a rt.world.memory) :
      Ends Q start (.ok (.ok a), rt)

/-- A workflow that succeeded has done what it does. -/
theorem Ends.of_ok {α : Type} {Q : α → Memory → Prop} {start : Memory}
    {result : Except Cut (Except Failure α) × Runtime Premises} (h : Ends Q start result) {a : α}
    (ok : result.1 = .ok (.ok a)) : Q a result.2.world.memory := by
  cases h with
  | givenUp _ => cases ok
  | failed _ => cases ok
  | succeeded fits =>
    cases ok
    exact fits

section

variable {α β : Type} {rt : Runtime Premises} {step : Step Memory.Kinds Premises.Run α}
  {New : String → Prop}

/-- A unit of work draws nothing after its step. -/
theorem DrawsNew.perform (h : DrawsNew New (UnitOfWork.perform step).run rt) :
    DrawsNew New (step.runOn (UnitOfWork.empty _ (UnitOfWork.nextId rt)))
      (UnitOfWork.opened rt) := by
  intro n hle hlt
  refine h n (by simpa using Nat.le_of_succ_le hle) ?_
  rcases hrun : Virtual.runOn (step.runOn (UnitOfWork.empty _ (UnitOfWork.nextId rt)))
      (UnitOfWork.opened rt) with ⟨c | ⟨e | a, u⟩, rt₁⟩
  · rw [hrun] at hlt
    rw [UnitOfWork.runOn_perform, hrun]
    exact hlt
  · rw [hrun] at hlt
    obtain ⟨rt₂, hperform, -, hentropy⟩ := UnitOfWork.runOn_perform_error hrun
    rw [hperform, hentropy]
    exact hlt
  · rw [hrun] at hlt
    obtain ⟨rt₂, hperform, -, hentropy⟩ := UnitOfWork.runOn_perform_ok hrun
    rw [hperform, hentropy]
    exact hlt

/-- What comes first in a computation draws nothing but what the whole does. -/
theorem DrawsNew.first {x : ExceptT Failure Premises.Run α}
    {f : α → ExceptT Failure Premises.Run β} (h : DrawsNew New (x >>= f).run rt)
    (keeps : ∀ a rt₁, ((f a).run.runOn rt₁).2.entropy.drawn = rt₁.entropy.drawn) :
    DrawsNew New x.run rt := by
  intro n hle hlt
  refine h n hle ?_
  rw [Virtual.runOn_attempt_bind]
  rcases hrun : x.run.runOn rt with ⟨c | e | a, rt₁⟩
  · rw [hrun] at hlt
    exact hlt
  · rw [hrun] at hlt
    exact hlt
  · rw [hrun] at hlt
    exact Nat.lt_of_lt_of_eq hlt (keeps a rt₁).symm

/-- A unit of work ends as its step does, with what a failed step did undone. -/
theorem StepEnds.perform {Q : α → Memory → Prop}
    (h : StepEnds Q rt.world.memory
      (Virtual.runOn (step.runOn (UnitOfWork.empty _ (UnitOfWork.nextId rt)))
        (UnitOfWork.opened rt))) :
    Ends Q rt.world.memory ((UnitOfWork.perform step).run.runOn rt) := by
  generalize hrun : Virtual.runOn (step.runOn (UnitOfWork.empty _ (UnitOfWork.nextId rt)))
      (UnitOfWork.opened rt) = result at h
  cases h with
  | failed undone =>
    obtain ⟨rt₂, hperform, hworld, -⟩ := UnitOfWork.runOn_perform_error hrun
    rw [hperform]
    exact .failed (by rw [hworld]; exact undone)
  | succeeded fits =>
    obtain ⟨rt₂, hperform, hworld, -⟩ := UnitOfWork.runOn_perform_ok hrun
    rw [hperform]
    exact .succeeded (by rw [hworld]; exact fits)

/-- What follows a workflow may change its result but not the stores. -/
theorem Ends.bind {x : ExceptT Failure Premises.Run α} {f : α → ExceptT Failure Premises.Run β}
    {Q : α → Memory → Prop} {R : β → Memory → Prop} {start : Memory}
    (h : Ends Q start (x.run.runOn rt))
    (next : ∀ a rt₁, Q a rt₁.world.memory → Ends R start ((f a).run.runOn rt₁)) :
    Ends R start ((x >>= f).run.runOn rt) := by
  rw [Virtual.runOn_attempt_bind]
  generalize x.run.runOn rt = result at h
  cases h with
  | givenUp same => exact .givenUp same
  | failed same => exact .failed same
  | succeeded fits => exact next _ _ fits

end

end Gatehouse
