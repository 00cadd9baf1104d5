/-
  Gatehouse/Proofs/Account/Conduct.lean --- how a workflow goes about its unit of work.

  The stores and the hasher may answer anything, install any transaction and register any
  actions.  Every run of a workflow that writes has the same course: it asks until a check
  fails or all have passed, opens a unit of work, makes its writes in order until a piece
  of its step fails or all are made, and ends the unit of work by the outcome of the step.

  Main definitions: `Question.refusal?`, `Passed`, `Underway`, `StepCourse`, `Course`,
  `Workflow`.
  Main statement: `Workflow.keeps_course`.
-/
import Gatehouse.Proofs.Work.Settling

set_option autoImplicit false

namespace Gatehouse

open Dialogue UnitOfWork

variable {K : UnitKinds} {α β : Type}

/-! ## Workflows -/

/-- A call of a workflow that writes. -/
inductive Workflow where
  | signup (input : SignupInput)
  | activate (token : String)
  | createRecovery (email : String)
  | recoverPassword (input : RecoverInput)
  deriving DecidableEq, Repr, Inhabited

namespace Workflow

/-- What a workflow gives when it succeeds. -/
abbrev Result : Workflow → Type
  | .signup _ => User
  | _ => Unit

/-- The workflow of a call. -/
def run (s : AccountService) : (w : Workflow) → ExceptT Failure (Dialogue K) w.Result
  | .signup input => s.signup input
  | .activate token => AccountService.activate token
  | .createRecovery email => s.createRecovery email
  | .recoverPassword input => AccountService.recoverPassword input

end Workflow

/-! ## Writes and checks -/

/-- What is written, without the data. -/
inductive WriteKind where
  | saveUser
  | activateUser
  | saveCredential (kind : CredentialKind)
  | deleteCredential (kind : CredentialKind)
  | enqueue
  deriving DecidableEq, Repr, Inhabited

/-- What a write writes. -/
def StoreWrite.kind : StoreWrite → WriteKind
  | .saveUser _ => .saveUser
  | .activateUser _ => .activateUser
  | .saveCredential kind _ => .saveCredential kind
  | .deleteCredential kind _ => .deleteCredential kind
  | .enqueue _ => .enqueue

/-- What a workflow writes, in order. -/
def Workflow.plan : Workflow → List WriteKind
  | .signup _ => [.saveUser, .saveCredential .activation, .enqueue]
  | .activate _ => [.activateUser, .deleteCredential .activation]
  | .createRecovery _ => [.saveCredential .recovery, .enqueue]
  | .recoverPassword _ => [.saveUser, .deleteCredential .recovery]

/-- The failure of a user that came from the store without an id. -/
def unnamedFailure : Failure := .internal "Stored user has no ID"

/-- The failure with which a workflow ends when it learns something, none if it goes on. -/
def Question.objection? : (q : Question) → q.Value → Option Failure
  | .emailTaken _ => fun taken : Bool => if taken then some (.auth .emailAlreadyTaken) else none
  | .userById _ => fun found : Option User =>
      if found.isNone then some (.auth .userNotFound) else none
  | .userByEmail _ => fun found : Option User => match found with
      | none => some (.auth .userNotFound)
      | some user => if user.id.isNone then some unnamedFailure else none
  | .credential kind _ => fun found : Option Credential => match found, kind with
      | none, .activation => some (.auth .activationNotFound)
      | none, .recovery => some (.auth .recoveryNotFound)
      | some _, _ => none
  | .hash _ => fun _ : String => none
  | .verify _ _ => fun right : Bool => if right then none else some (.auth .wrongCredentials)

/-- The failure with which a workflow ends at an answer, none if it goes on. -/
def Question.refusal? (q : Question) : Except Failure q.Value → Option Failure
  | .error e => some e
  | .ok a => q.objection? a

/-- The base of the links that carry a credential of a kind. -/
def AccountConfig.base (c : AccountConfig) : CredentialKind → String
  | .activation => c.activationUrl
  | .recovery => c.passwordRecoveryUrl

/-- The mail that carries a credential of a kind. -/
def AccountService.mailFor (s : AccountService) (kind : CredentialKind) (address token : String) :
    Except Failure Mail :=
  kind.mail address (s.config.base kind) token

/-! ## Courses -/

/-- Whether some exchanges are checks that passed. -/
inductive Passed : List (Exchange K) → Prop
  | start : Passed []
  | asked {said : List (Exchange K)} {q : Question} {a : q.Value} (earlier : Passed said)
      (accepted : q.objection? a = none) : Passed (said ++ [⟨.ask q, .ok a⟩])

/-- What was said in a unit of work as long as every piece of the step succeeded, how it
left the unit of work, and what was written. -/
inductive Underway (u : UnitOfWork K) : List (Exchange K) → UnitOfWork K → List WriteKind → Prop
  | start : Underway u [] u []
  | asked {said : List (Exchange K)} {v : UnitOfWork K} {made : List WriteKind} {q : Question}
      {a : q.Value} (earlier : Underway u said v made) (accepted : q.objection? a = none) :
      Underway u (said ++ [⟨.ask q, .ok a⟩]) v made
  | drew {said : List (Exchange K)} {v : UnitOfWork K} {made : List WriteKind}
      (earlier : Underway u said v made) (token : String) :
      Underway u (said ++ [⟨.freshToken, token⟩]) v made
  | logged {said : List (Exchange K)} {v : UnitOfWork K} {made : List WriteKind}
      (earlier : Underway u said v made) {event : LogEvent} (other : event.source ≠ .unitOfWork) :
      Underway u (said ++ [⟨.log event, ()⟩]) v made
  | wrote {said : List (Exchange K)} {v v' : UnitOfWork K} {made : List WriteKind} {w : StoreWrite}
      {a : w.Value} (earlier : Underway u said v made) :
      Underway u (said ++ [⟨.write w v, (.ok a, v')⟩]) v' (made ++ [w.kind])

/-- What is said in the step of a workflow, how it ends, and how it leaves the unit of
work.  Every failing piece is the last thing of a step. -/
inductive StepCourse (s : AccountService) (plan : List WriteKind) (u : UnitOfWork K) :
    List (Exchange K) → Except Failure α → UnitOfWork K → Prop
  /-- Everything was written. -/
  | finished {said : List (Exchange K)} {v : UnitOfWork K} (all : Underway u said v plan) (a : α) :
      StepCourse s plan u said (.ok a) v
  /-- An answer was a failure. -/
  | refused {said : List (Exchange K)} {v : UnitOfWork K} {made rest : List WriteKind}
      {next : WriteKind} (earlier : Underway u said v made) (part : plan = made ++ next :: rest)
      {q : Question} {r : Except Failure q.Value} {e : Failure} (refusal : q.refusal? r = some e) :
      StepCourse s plan u (said ++ [⟨.ask q, r⟩]) (.error e) v
  /-- A write failed. -/
  | unwritten {said : List (Exchange K)} {v : UnitOfWork K} {made rest : List WriteKind}
      {w : StoreWrite} (earlier : Underway u said v made) (part : plan = made ++ w.kind :: rest)
      (e : Failure) (v' : UnitOfWork K) :
      StepCourse s plan u (said ++ [⟨.write w v, (.error e, v')⟩]) (.error e) v'
  /-- The user that was saved has no id. -/
  | unnamed {said : List (Exchange K)} {v v' : UnitOfWork K} {made rest : List WriteKind}
      {next : WriteKind} {user saved : User}
      (earlier : Underway u (said ++ [⟨.write (.saveUser user) v, (.ok saved, v')⟩]) v' made)
      (part : plan = made ++ next :: rest) (unnamed : saved.id = none) :
      StepCourse s plan u (said ++ [⟨.write (.saveUser user) v, (.ok saved, v')⟩])
        (.error unnamedFailure) v'
  /-- The credential that was kept cannot be mailed. -/
  | unmailable {said : List (Exchange K)} {v v' : UnitOfWork K} {made rest : List WriteKind}
      {next : WriteKind} {kind : CredentialKind} {c : Credential} {address : String} {e : Failure}
      (earlier : Underway u (said ++ [⟨.write (.saveCredential kind c) v, (.ok (), v')⟩]) v' made)
      (part : plan = made ++ next :: rest)
      (unmailable : s.mailFor kind address c.token = .error e) :
      StepCourse s plan u (said ++ [⟨.write (.saveCredential kind c) v, (.ok (), v')⟩])
        (.error e) v'

/-- What is said in a workflow, and what it answers. -/
inductive Course (s : AccountService) (plan : List WriteKind) :
    List (Exchange K) → Except Failure α → Prop
  /-- A check failed. -/
  | refused {checks : List (Exchange K)} (passed : Passed checks) {q : Question}
      {r : Except Failure q.Value} {e : Failure} (refusal : q.refusal? r = some e) :
      Course s plan (checks ++ [⟨.ask q, r⟩]) (.error e)
  /-- The step failed, or the commit. -/
  | failed {checks made ending : List (Exchange K)} (passed : Passed checks) (id : Uuid)
      {outcome : Except Failure α} {v : UnitOfWork K} {e : Failure}
      (step : StepCourse s plan (empty K id) made outcome v)
      (settled : v.Settled outcome ending (.error e)) :
      Course s plan (checks ++ (opening id ++ made ++ ending)) (.error e)
  /-- Everything succeeded. -/
  | succeeded {checks made ending : List (Exchange K)} (passed : Passed checks) (id : Uuid)
      {outcome : Except Failure α} {v : UnitOfWork K} {a : α}
      (step : StepCourse s plan (empty K id) made outcome v)
      (settled : v.Settled outcome ending (.ok a))
      {event : LogEvent} (other : event.source ≠ .unitOfWork) :
      Course s plan (checks ++ (opening id ++ made ++ ending) ++ [⟨.log event, ()⟩]) (.ok a)

/-! ## Steps -/

section

variable {s : AccountService} {plan made rest : List WriteKind} {u v : UnitOfWork K}
  {said : List (Exchange K)}

/-- Whether what remains of a step, after some exchanges, completes a course. -/
def Completes (s : AccountService) (plan : List WriteKind) (u v : UnitOfWork K)
    (said : List (Exchange K)) (x : Step K (Dialogue K) α) : Prop :=
  (x.runOn v).Ensures said fun whole r => StepCourse s plan u whole r.1 r.2

theorem Underway.finish (h : Underway u said v plan) (a : α) :
    Completes s plan u v said (pure a) := by
  rw [Completes, ensures_step_pure]
  exact .finished h a

/-- A password is hashed. -/
theorem Underway.hash {password : String} {f : String → Step K (Dialogue K) α}
    (h : Underway u said v made) {next : WriteKind} (part : plan = made ++ next :: rest)
    (go : ∀ hash said', Underway u said' v made → Completes s plan u v said' (f hash)) :
    Completes s plan u v said (Step.lift (PasswordHasher.hash password) >>= f) := by
  rw [Completes, ensures_step_bind, ensures_lift]
  refine ensures_ask.2 ?_
  rintro (e | hash)
  · exact .refused h part rfl
  · exact go hash _ (h.asked rfl)

/-- A write is made. -/
theorem Underway.write {w : StoreWrite} {f : w.Value → Step K (Dialogue K) α}
    (h : Underway u said v made) (part : plan = made ++ w.kind :: rest)
    (go : ∀ a v', Underway u (said ++ [⟨.write w v, (.ok a, v')⟩]) v' (made ++ [w.kind]) →
      Completes s plan u v' (said ++ [⟨.write w v, (.ok a, v')⟩]) (f a)) :
    Completes s plan u v said (Dialogue.write w >>= f) := by
  rw [Completes, ensures_step_bind, ensures_write]
  rintro ⟨e | a, v'⟩
  · exact .unwritten h part e v'
  · exact go a v' h.wrote

/-- The last write of a step is made, and what it gives is the result. -/
theorem Underway.writeLast {w : StoreWrite} (h : Underway u said v made)
    (part : plan = made ++ [w.kind]) : Completes s plan u v said (Dialogue.write w) := by
  rw [← bind_pure (Dialogue.write w)]
  refine h.write part ?_
  intro a v' hwritten
  rw [← part] at hwritten
  exact hwritten.finish a

/-- The id of a user that was saved is read. -/
theorem Underway.name {user saved : User} {f : Uuid → Step K (Dialogue K) α} {v' : UnitOfWork K}
    (h : Underway u (said ++ [⟨.write (.saveUser user) v, (.ok saved, v')⟩]) v' made)
    {next : WriteKind} (part : plan = made ++ next :: rest)
    (go : ∀ id, Completes s plan u v' (said ++ [⟨.write (.saveUser user) v, (.ok saved, v')⟩])
      (f id)) :
    Completes s plan u v' (said ++ [⟨.write (.saveUser user) v, (.ok saved, v')⟩])
      (Step.lift (AccountService.storedId saved) >>= f) := by
  rw [Completes, ensures_step_bind, ensures_lift, AccountService.storedId]
  cases hid : saved.id with
  | none => exact .unnamed h part hid
  | some id => exact go id

/-- A credential is made. -/
theorem Underway.draw {owner : Uuid} {f : Credential → Step K (Dialogue K) α}
    (h : Underway u said v made)
    (go : ∀ c said', Underway u said' v made → Completes s plan u v said' (f c)) :
    Completes s plan u v said
      (Step.lift (ExceptT.lift (AccountService.freshCredential owner)) >>= f) := by
  rw [Completes, ensures_step_bind, ensures_lift]
  intro token
  exact go _ _ (h.drew token)

/-- A mail is queued. -/
theorem Underway.enqueueMail {mail : Mail} {f : Unit → Step K (Dialogue K) α}
    (h : Underway u said v made) (part : plan = made ++ .enqueue :: rest)
    (go : ∀ v' said', Underway u said' v' (made ++ [.enqueue]) →
      Completes s plan u v' said' (f ())) :
    Completes s plan u v said (enqueueMail mail >>= f) := by
  rw [Gatehouse.enqueueMail, bind_assoc]
  refine h.write (w := .enqueue mail) part ?_
  intro _ v' hqueued
  rw [Completes, ensures_step_bind, ensures_lift]
  rintro ⟨⟩
  exact go v' _ (hqueued.logged nofun)

/-- A credential is kept and the mail made that carries it. -/
theorem Underway.keepForMail {kind : CredentialKind} {c : Credential} {address : String}
    {mail : Except Failure Mail} {f : Mail → Step K (Dialogue K) α} (h : Underway u said v made)
    {next : WriteKind} (part : plan = made ++ .saveCredential kind :: next :: rest)
    (carries : mail = s.mailFor kind address c.token)
    (go : ∀ mail v' said', Underway u said' v' (made ++ [.saveCredential kind]) →
      Completes s plan u v' said' (f mail)) :
    Completes s plan u v said
      (CredentialStore.save kind c >>= fun _ => ExceptT.mk (pure mail) >>= f) := by
  refine h.write (w := .saveCredential kind c) part ?_
  rintro ⟨⟩ v' hkept
  rw [Completes, ensures_step_bind, ensures_step_result]
  cases hmail : mail with
  | error e =>
    have hpart : plan = made ++ [.saveCredential kind] ++ next :: rest := by
      rw [part, List.append_assoc]
      rfl
    exact .unmailable hkept hpart (carries.symm.trans hmail)
  | ok mail => exact go mail v' _ hkept

end

namespace AccountService

variable (s : AccountService)

theorem register_completes (u : UnitOfWork K) (input : SignupInput) :
    Completes s (Workflow.signup input).plan u u [] (s.register input) := by
  refine Underway.start.hash rfl ?_
  intro hash said hhash
  refine hhash.write (w := .saveUser _) rfl ?_
  intro user v hsaved
  refine hsaved.name rfl ?_
  intro owner
  refine hsaved.draw ?_
  intro c said' hdrawn
  refine hdrawn.keepForMail rfl rfl ?_
  intro mail v' said'' hkept
  refine hkept.enqueueMail rfl ?_
  intro v'' said''' hmailed
  exact hmailed.finish user

theorem consumeActivation_completes (u : UnitOfWork K) (token : String)
    (activation : Credential) :
    Completes s (Workflow.activate token).plan u u [] (consumeActivation activation) := by
  refine Underway.start.write (w := .activateUser _) rfl ?_
  intro _ v hactivated
  exact hactivated.writeLast (w := .deleteCredential .activation _) rfl

theorem openRecovery_completes (u : UnitOfWork K) (email : String) (user : User) (owner : Uuid) :
    Completes s (Workflow.createRecovery email).plan u u [] (s.openRecovery user owner) := by
  refine Underway.start.draw ?_
  intro c said hdrawn
  refine hdrawn.keepForMail rfl rfl ?_
  intro mail v said' hkept
  rw [← bind_pure (enqueueMail mail)]
  refine hkept.enqueueMail rfl ?_
  intro v' said'' hmailed
  exact hmailed.finish ()

theorem consumeRecovery_completes (u : UnitOfWork K) (input : RecoverInput) (user : User)
    (recovery : Credential) :
    Completes s (Workflow.recoverPassword input).plan u u [] (consumeRecovery user recovery) := by
  refine Underway.start.write (w := .saveUser _) rfl ?_
  intro _ v hsaved
  exact hsaved.writeLast (w := .deleteCredential .recovery _) rfl

end AccountService

/-! ## Whole runs -/

section

variable {s : AccountService} {plan : List WriteKind} {checks : List (Exchange K)}

/-- A check is made.  The workflow ends if what it learns speaks against going on. -/
theorem Passed.ask {q : Question} {f : q.Value → ExceptT Failure (Dialogue K) α}
    (h : Passed checks)
    (go : ∀ a, match q.objection? a with
      | none => (f a).run.Ensures (checks ++ [⟨.ask q, .ok a⟩]) (Course s plan)
      | some e => f a = throw e) :
    (Dialogue.ask q >>= f).run.Ensures checks (Course s plan) := by
  rw [ensures_attempt_bind]
  refine ensures_ask.2 ?_
  rintro (e | a)
  · exact .refused h rfl
  · have hgo := go a
    cases hobjection : q.objection? a with
    | none =>
      rw [hobjection] at hgo
      exact hgo
    | some e =>
      rw [hobjection] at hgo
      dsimp only
      rw [hgo]
      exact .refused h hobjection

/-- A step is made in a unit of work of its own, and its success is told. -/
theorem Passed.perform {step : Step K (Dialogue K) α} {tell : α → ExceptT Failure (Dialogue K) α}
    (h : Passed checks) (completes : ∀ u, Completes s plan u u [] step)
    (tells : ∀ a said, (∀ event : LogEvent, event.source ≠ .unitOfWork →
        Course s plan (said ++ [⟨.log event, ()⟩]) (.ok a)) →
      (tell a).run.Ensures said (Course s plan)) :
    (UnitOfWork.perform step >>= tell).run.Ensures checks (Course s plan) := by
  rw [ensures_attempt_bind, ensures_iff]
  intro said r hperform
  obtain ⟨id, made, outcome, v, ending, rfl, hmade, hsettled⟩ := runs_perform hperform
  have hstep : StepCourse s plan (empty K id) made outcome v :=
    ensures_iff.1 (completes (empty K id)) made (outcome, v) hmade
  cases r with
  | error e => exact .failed h id hstep hsettled
  | ok a =>
    refine tells a _ ?_
    intro event other
    exact .succeeded h id hstep hsettled other

end

namespace AccountService

variable (s : AccountService)

theorem signup_courses (input : SignupInput) :
    (s.signup input : ExceptT Failure (Dialogue K) User).run.Ensures []
      (Course s (Workflow.signup input).plan) := by
  refine Passed.start.ask (q := .emailTaken _) ?_
  rintro (_ | _)
  · refine (Passed.start.asked rfl).perform (fun u => s.register_completes u input) ?_
    exact fun _ _ told _ => told _ nofun
  · rfl

theorem activate_courses (token : String) :
    (activate token : ExceptT Failure (Dialogue K) Unit).run.Ensures []
      (Course s (Workflow.activate token).plan) := by
  refine Passed.start.ask (q := .credential .activation _) ?_
  rintro (_ | activation)
  · rfl
  · refine (Passed.start.asked rfl).perform
      (fun u => s.consumeActivation_completes u token activation) ?_
    exact fun _ _ told _ => told _ nofun

theorem createRecovery_courses (email : String) :
    (s.createRecovery email : ExceptT Failure (Dialogue K) Unit).run.Ensures []
      (Course s (Workflow.createRecovery email).plan) := by
  refine Passed.start.ask (q := .userByEmail _) ?_
  rintro (_ | user)
  · rfl
  · cases hid : user.id with
    | none =>
      simp only [Question.objection?, storedId, hid]
      rfl
    | some id =>
      simp only [Question.objection?, storedId, hid]
      refine (Passed.start.asked ?_).perform (fun u => s.openRecovery_completes u email user id) ?_
      · simp [Question.objection?, hid]
      · exact fun _ _ told _ => told _ nofun

theorem recoverPassword_courses (input : RecoverInput) :
    (recoverPassword input : ExceptT Failure (Dialogue K) Unit).run.Ensures []
      (Course s (Workflow.recoverPassword input).plan) := by
  refine Passed.start.ask (q := .credential .recovery _) ?_
  rintro (_ | recovery)
  · rfl
  have hfound := Passed.start (K := K).asked (q := .credential .recovery input.token)
    (a := some recovery) rfl
  refine hfound.ask (q := .userById _) ?_
  rintro (_ | user)
  · rfl
  have hknown := hfound.asked (q := .userById recovery.userId) (a := some user) rfl
  refine hknown.ask (q := .verify _ _) ?_
  rintro (_ | _)
  · rfl
  have hright := hknown.asked (q := .verify input.oldPassword user.passwordHash) (a := true) rfl
  refine hright.ask (q := .hash _) ?_
  intro hash
  refine (hright.asked rfl).perform (fun u => s.consumeRecovery_completes u input _ recovery) ?_
  exact fun _ _ told _ => told _ nofun

end AccountService

/-! ## What a run logs of its unit of work -/

section

variable {s : AccountService} {plan made : List WriteKind} {u v : UnitOfWork K}
  {said : List (Exchange K)}

theorem Passed.notes (h : Passed said) : notes said = [] := by
  induction h with
  | start => rfl
  | asked earlier accepted ih =>
    rw [notes_append, ih]
    rfl

theorem Underway.notes (h : Underway u said v made) : notes said = [] := by
  induction h with
  | start => rfl
  | asked earlier accepted ih =>
    rw [notes_append, ih]
    rfl
  | drew earlier token ih =>
    rw [notes_append, ih]
    rfl
  | logged earlier other ih =>
    rw [notes_append, ih]
    simp [UnitOfWork.notes, other]
  | wrote earlier ih =>
    rw [notes_append, ih]
    rfl

theorem StepCourse.notes {outcome : Except Failure α} (h : StepCourse s plan u said outcome v) :
    notes said = [] := by
  cases h with
  | finished all a => exact all.notes
  | refused earlier part refusal =>
    rw [notes_append, earlier.notes]
    rfl
  | unwritten earlier part e v' =>
    rw [notes_append, earlier.notes]
    rfl
  | unnamed earlier part unnamed => exact earlier.notes
  | unmailable earlier part unmailable => exact earlier.notes

/-- A unit of work that is opened after the checks is the only one until its end. -/
theorem StepCourse.notes_whole {outcome r : Except Failure α} {checks ending : List (Exchange K)}
    (h : StepCourse s plan u said outcome v) (id : Uuid) (passed : Passed checks)
    (settled : v.Settled outcome ending r) :
    (UnitOfWork.notes (checks ++ (opening id ++ said ++ ending))).count openedNote = 1
      ∧ droppedNote ∉ UnitOfWork.notes (checks ++ (opening id ++ said ++ ending)) := by
  have hnotes : UnitOfWork.notes (checks ++ (opening id ++ said ++ ending))
      = openedNote :: UnitOfWork.notes ending := by
    rw [notes_append, notes_append, notes_append, passed.notes, h.notes]
    rfl
  obtain ⟨hopened, hdropped⟩ := settled.notes
  rw [hnotes]
  constructor
  · rw [List.count_cons_self, List.count_eq_zero_of_not_mem hopened]
  · exact List.not_mem_cons_of_ne_of_not_mem (by decide) hdropped

/-- A run opens at most one unit of work, and does not drop it. -/
theorem Course.notes {r : Except Failure α} (h : Course s plan said r) :
    (notes said).count openedNote ≤ 1 ∧ droppedNote ∉ notes said := by
  cases h with
  | @refused checks passed q r e refusal =>
    have hnotes : UnitOfWork.notes (checks ++ [⟨.ask q, r⟩]) = [] := by
      rw [notes_append, passed.notes]
      rfl
    rw [hnotes]
    exact ⟨Nat.zero_le 1, nofun⟩
  | failed passed id step settled =>
    obtain ⟨hopened, hdropped⟩ := step.notes_whole id passed settled
    exact ⟨Nat.le_of_eq hopened, hdropped⟩
  | @succeeded checks made ending passed id outcome v a step settled event other =>
    obtain ⟨hopened, hdropped⟩ := step.notes_whole id passed settled
    have htold : UnitOfWork.notes (K := K) [⟨.log event, ()⟩] = [] := by
      simp [UnitOfWork.notes, other]
    rw [notes_append, htold, List.append_nil]
    exact ⟨Nat.le_of_eq hopened, hdropped⟩

end

/-- However its collaborators answer, a workflow keeps its course: it opens a unit of work
when every check has passed, makes its writes until a piece of the step fails, and ends the
unit of work by a commit if none did and by a rollback otherwise.  It answers with the
failure of the check or the piece, or with that of the commit, and succeeds only when
everything was committed.  It never opens a second unit of work, and never drops one. -/
theorem Workflow.keeps_course (s : AccountService) (w : Workflow) {said : List (Exchange K)}
    {r : Except Failure w.Result} (h : (w.run s).run.Runs said r) :
    Course s w.plan said r
      ∧ (notes said).count openedNote ≤ 1 ∧ droppedNote ∉ notes said := by
  have hcourse : Course s w.plan said r := by
    cases w with
    | signup input => exact ensures_iff.1 (s.signup_courses input) said r h
    | activate token => exact ensures_iff.1 (s.activate_courses token) said r h
    | createRecovery email => exact ensures_iff.1 (s.createRecovery_courses email) said r h
    | recoverPassword input => exact ensures_iff.1 (s.recoverPassword_courses input) said r h
  exact ⟨hcourse, hcourse.notes⟩

/-- Collaborators that number their transactions and their actions. -/
abbrev UnitKinds.numbered : UnitKinds := { Handle := Nat, Undo := Nat, Finish := Nat }

/-- An activation that cannot be deleted, in a transaction that cannot be discarded. -/
def Workflow.undeleted : List (Exchange .numbered) :=
  let pending : Credential := { token := "t", userId := ⟨1#128⟩ }
  let opened : UnitOfWork .numbered := empty _ ⟨2#128⟩
  let filled : UnitOfWork .numbered := { opened with handle := some 7, undos := [8, 9] }
  let stuck : Failure := .internal "lock timeout"
  let lost : Failure := .internal "connection lost"
  [⟨.ask (.credential .activation "t"), .ok (some pending)⟩,
    ⟨.freshId, ⟨2#128⟩⟩, ⟨.log openedNote, ()⟩,
    ⟨.write (.activateUser ⟨1#128⟩) opened, (.ok (), filled)⟩,
    ⟨.write (.deleteCredential .activation "t") filled, (.error stuck, filled)⟩,
    ⟨.log (failedNote stuck), ()⟩,
    ⟨.rollbackHandle 7, .error lost⟩, ⟨.log (undiscardedNote lost), ()⟩,
    ⟨.runUndo 8, ()⟩, ⟨.runUndo 9, ()⟩, ⟨.log rolledBackNote, ()⟩]

/-- The user that was activated is put back. -/
theorem Workflow.keeps_course_undeleted :
    ((Workflow.activate "t").run default).run.Runs undeleted (.error (.internal "lock timeout"))
      ∧ Course default (Workflow.activate "t").plan undeleted
          (.error (.internal "lock timeout") : Except Failure Unit)
      ∧ (notes undeleted).count openedNote ≤ 1 ∧ droppedNote ∉ notes undeleted := by
  have runs : ((Workflow.activate "t").run default).run.Runs undeleted
      (.error (.internal "lock timeout")) := by
    repeat refine ⟨_, _, rfl, ?_⟩
    exact ⟨rfl, rfl⟩
  exact ⟨runs, keeps_course default (.activate "t") runs⟩

end Gatehouse
