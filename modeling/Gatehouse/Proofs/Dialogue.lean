/-
  Gatehouse/Proofs/Dialogue.lean --- workflows as what they ask of their collaborators.

  Here a workflow runs on nothing in particular.  It is the tree of its requests: it
  makes a request of a collaborator, and how it goes on depends on the answer.  A store
  that is written to answers with a result and with the unit of work as it leaves it, so
  it may install any transaction and register any action.  Nothing is assumed about the
  answers: what holds of every run through the tree holds whatever the collaborators are.

  A run is told by its exchanges, which are the requests with their answers.  `Ensures`
  says that all runs that come after some exchanges have a property of all the exchanges
  and of the result; its rules take a workflow apart from its front, one request at a
  time.

  Main definitions: `Question`, `StoreWrite`, `Request`, `Exchange`, `Dialogue`,
  `Dialogue.Runs`, `Dialogue.Ensures`.
  Main statements: `Dialogue.exists_runs`, `Dialogue.ensures_iff`, and for each way to go on
  `Dialogue.ensures_bind`, `Dialogue.ensures_attempt_bind`, `Dialogue.ensures_step_bind`.
-/
import Gatehouse.Account.Service

set_option autoImplicit false

namespace Gatehouse

/-! ## Requests and their answers -/

/-- What the stores and the hasher are asked without being written to. -/
inductive Question where
  | emailTaken (email : String)
  | userById (id : Uuid)
  | userByEmail (email : String)
  | credential (kind : CredentialKind) (token : String)
  | hash (password : String)
  | verify (password hash : String)
  deriving DecidableEq, Repr, Inhabited

/-- What a question is about. -/
abbrev Question.Value : Question → Type
  | .emailTaken _ => Bool
  | .userById _ => Option User
  | .userByEmail _ => Option User
  | .credential _ _ => Option Credential
  | .hash _ => String
  | .verify _ _ => Bool

/-- What the stores are told to write. -/
inductive StoreWrite where
  | saveUser (user : User)
  | activateUser (id : Uuid)
  | saveCredential (kind : CredentialKind) (credential : Credential)
  | deleteCredential (kind : CredentialKind) (token : String)
  | enqueue (mail : Mail)
  deriving DecidableEq, Repr, Inhabited

/-- What a write gives. -/
abbrev StoreWrite.Value : StoreWrite → Type
  | .saveUser _ => User
  | _ => Unit

/-- What a collaborator is told to do.  A write is made in a unit of work. -/
inductive Request (K : UnitKinds) where
  | log (event : LogEvent)
  | freshId
  | freshToken
  | freshBytes (n : Nat)
  | ask (q : Question)
  | write (w : StoreWrite) (work : UnitOfWork K)
  | commitHandle (h : K.Handle)
  | rollbackHandle (h : K.Handle)
  | runUndo (a : K.Undo)
  | runFinish (a : K.Finish)

/-- What a request may be answered.  A write leaves a unit of work behind, also when it
fails. -/
abbrev Request.Answer {K : UnitKinds} : Request K → Type
  | .log _ => Unit
  | .freshId => Uuid
  | .freshToken => String
  | .freshBytes n => Vector UInt8 n
  | .ask q => Except Failure q.Value
  | .write w _ => Except Failure w.Value × UnitOfWork K
  | .commitHandle _ => Except Failure Unit
  | .rollbackHandle _ => Except Failure Unit
  | .runUndo _ => Unit
  | .runFinish _ => Except Failure Unit

/-- A request with its answer. -/
abbrev Exchange (K : UnitKinds) := (c : Request K) × c.Answer

/-- A computation as the tree of its requests. -/
inductive Dialogue (K : UnitKinds) (α : Type) where
  | done (a : α)
  | request (c : Request K) (next : c.Answer → Dialogue K α)

namespace Dialogue

variable {K : UnitKinds} {α β : Type}

/-- Goes on with the result of a computation. -/
def andThen : Dialogue K α → (α → Dialogue K β) → Dialogue K β
  | .done a, f => f a
  | .request c next, f => .request c fun r => (next r).andThen f

instance : Monad (Dialogue K) where
  pure := .done
  bind := andThen

theorem andThen_done (x : Dialogue K α) : x.andThen .done = x := by
  induction x with
  | done a => rfl
  | request c next ih => exact congrArg (request c) (funext ih)

theorem andThen_assoc {γ : Type} (x : Dialogue K α) (f : α → Dialogue K β)
    (g : β → Dialogue K γ) : (x.andThen f).andThen g = x.andThen fun a => (f a).andThen g := by
  induction x with
  | done a => rfl
  | request c next ih => exact congrArg (request c) (funext ih)

instance : LawfulMonad (Dialogue K) :=
  LawfulMonad.mk' (Dialogue K) andThen_done (fun _ _ => rfl) andThen_assoc

/-- Makes a request and gives its answer. -/
def send (c : Request K) : Dialogue K c.Answer := .request c .done

/-! ## Collaborators of which nothing is known -/

instance : MonadLog (Dialogue K) where
  log event := send (.log event)

instance : MonadRandom (Dialogue K) where
  freshId := send .freshId
  freshToken := send .freshToken
  freshBytes n := send (.freshBytes n)

/-- Asks a question. -/
def ask (q : Question) : ExceptT Failure (Dialogue K) q.Value := ExceptT.mk (send (.ask q))

/-- Makes a write in the unit of work of a step. -/
def write (w : StoreWrite) : Step K (Dialogue K) w.Value :=
  ExceptT.mk fun u => send (.write w u)

instance : UserStore (Dialogue K) K where
  existsByEmail email := ask (.emailTaken email)
  findById id := ask (.userById id)
  findByEmail email := ask (.userByEmail email)
  save user := write (.saveUser user)
  activate id := write (.activateUser id)

instance : CredentialStore (Dialogue K) K where
  find kind token := ask (.credential kind token)
  save kind c := write (.saveCredential kind c)
  delete kind token := write (.deleteCredential kind token)

instance : PasswordHasher (Dialogue K) where
  hash password := ask (.hash password)
  verify password hash := ask (.verify password hash)

instance : MailQueue (Dialogue K) K where
  enqueue mail := write (.enqueue mail)

instance : UnitActions (Dialogue K) K where
  commitHandle h := send (.commitHandle h)
  rollbackHandle h := send (.rollbackHandle h)
  runUndo a := send (.runUndo a)
  runFinish a := send (.runFinish a)

/-! ## Runs -/

/-- Whether a computation may make the requests of some exchanges, in their order, and
end with a result when they are answered so. -/
def Runs : Dialogue K α → List (Exchange K) → α → Prop
  | .done b, said, a => said = [] ∧ b = a
  | .request c next, said, a => ∃ r rest, said = ⟨c, r⟩ :: rest ∧ (next r).Runs rest a

/-- Whether every run that comes after some exchanges has a property of all the exchanges
and of its result. -/
def Ensures : Dialogue K α → List (Exchange K) → (List (Exchange K) → α → Prop) → Prop
  | .done a, before, Q => Q before a
  | .request c next, before, Q => ∀ r, (next r).Ensures (before ++ [⟨c, r⟩]) Q

theorem ensures_iff {x : Dialogue K α} {before : List (Exchange K)}
    {Q : List (Exchange K) → α → Prop} :
    x.Ensures before Q ↔ ∀ said a, x.Runs said a → Q (before ++ said) a := by
  induction x generalizing before with
  | done a =>
    constructor
    · rintro h said b ⟨rfl, rfl⟩
      rw [List.append_nil]
      exact h
    · intro h
      have hrun := h [] a ⟨rfl, rfl⟩
      rw [List.append_nil] at hrun
      exact hrun
  | request c next ih =>
    constructor
    · rintro h said a ⟨r, rest, rfl, hrest⟩
      have hnext := (ih r).1 (h r) rest a hrest
      rw [List.append_assoc] at hnext
      exact hnext
    · intro h r
      refine (ih r).2 ?_
      intro rest a hrest
      rw [List.append_assoc]
      exact h (⟨c, r⟩ :: rest) a ⟨r, rest, rfl, hrest⟩

/-- However its requests are answered, a computation comes to an end. -/
theorem exists_runs (x : Dialogue K α) (answer : (c : Request K) → c.Answer) :
    ∃ said a, x.Runs said a ∧ ∀ e ∈ said, e.2 = answer e.1 := by
  induction x with
  | done a => exact ⟨[], a, ⟨rfl, rfl⟩, nofun⟩
  | request c next ih =>
    obtain ⟨rest, a, hrest, hanswer⟩ := ih (answer c)
    refine ⟨⟨c, answer c⟩ :: rest, a, ⟨_, rest, rfl, hrest⟩, ?_⟩
    intro e he
    rcases List.mem_cons.1 he with rfl | he
    · rfl
    · exact hanswer e he

section

variable {x : Dialogue K α} {before : List (Exchange K)}

theorem runs_pure {a b : α} {said : List (Exchange K)} :
    (pure a : Dialogue K α).Runs said b ↔ said = [] ∧ a = b := Iff.rfl

theorem runs_send {c : Request K} {said : List (Exchange K)} {r : c.Answer} :
    (send c).Runs said r ↔ said = [⟨c, r⟩] := by
  constructor
  · rintro ⟨s, rest, rfl, rfl, rfl⟩
    rfl
  · rintro rfl
    exact ⟨r, [], rfl, rfl, rfl⟩

theorem runs_bind {f : α → Dialogue K β} {said : List (Exchange K)} {b : β} :
    (x >>= f).Runs said b
      ↔ ∃ first a rest, said = first ++ rest ∧ x.Runs first a ∧ (f a).Runs rest b := by
  induction x generalizing said with
  | done a =>
    constructor
    · intro h
      exact ⟨[], a, said, rfl, ⟨rfl, rfl⟩, h⟩
    · rintro ⟨first, a', rest, rfl, ⟨rfl, rfl⟩, h⟩
      exact h
  | request c next ih =>
    constructor
    · rintro ⟨r, tail, rfl, htail⟩
      obtain ⟨first, a, rest, rfl, hfirst, hrest⟩ := (ih r).1 htail
      exact ⟨⟨c, r⟩ :: first, a, rest, rfl, ⟨r, first, rfl, hfirst⟩, hrest⟩
    · rintro ⟨_, a, rest, rfl, ⟨r, first, rfl, hfirst⟩, hrest⟩
      exact ⟨r, first ++ rest, rfl, (ih r).2 ⟨first, a, rest, rfl, hfirst, hrest⟩⟩

theorem ensures_bind {f : α → Dialogue K β} {Q : List (Exchange K) → β → Prop} :
    (x >>= f).Ensures before Q
      ↔ x.Ensures before fun said a => (f a).Ensures said Q := by
  induction x generalizing before with
  | done a => exact Iff.rfl
  | request c next ih => exact forall_congr' fun r => ih r

theorem Ensures.mono {Q R : List (Exchange K) → α → Prop} (h : x.Ensures before Q)
    (imp : ∀ said a, Q said a → R said a) : x.Ensures before R := by
  rw [ensures_iff] at h ⊢
  intro said a hrun
  exact imp _ _ (h said a hrun)

/-! ## Workflows that may fail -/

theorem ensures_attempt_bind {x : ExceptT Failure (Dialogue K) α}
    {f : α → ExceptT Failure (Dialogue K) β} {Q : List (Exchange K) → Except Failure β → Prop} :
    (x >>= f).run.Ensures before Q
      ↔ x.run.Ensures before fun said r => match r with
        | .ok a => (f a).run.Ensures said Q
        | .error e => Q said (.error e) := by
  rw [ExceptT.run_bind, ensures_bind]
  constructor
  · intro h
    refine h.mono ?_
    rintro said (e | a) hnext
    · exact hnext
    · exact hnext
  · intro h
    refine h.mono ?_
    rintro said (e | a) hnext
    · exact hnext
    · exact hnext

theorem ensures_ask {q : Question} {Q : List (Exchange K) → Except Failure q.Value → Prop} :
    (ask q).run.Ensures before Q ↔ ∀ r, Q (before ++ [⟨.ask q, r⟩]) r := Iff.rfl

/-! ## Pieces of a step -/

variable {u : UnitOfWork K}

theorem ensures_step_bind {x : Step K (Dialogue K) α} {f : α → Step K (Dialogue K) β}
    {Q : List (Exchange K) → Except Failure β × UnitOfWork K → Prop} :
    ((x >>= f).runOn u).Ensures before Q
      ↔ (x.runOn u).Ensures before fun said r => match r with
        | (.ok a, v) => ((f a).runOn v).Ensures said Q
        | (.error e, v) => Q said (.error e, v) := by
  rw [Step.runOn, ExceptT.run_bind, StateT.run_bind, ensures_bind]
  constructor
  · intro h
    refine h.mono ?_
    rintro said ⟨e | a, v⟩ hnext
    · exact hnext
    · exact hnext
  · intro h
    refine h.mono ?_
    rintro said ⟨e | a, v⟩ hnext
    · exact hnext
    · exact hnext

theorem ensures_step_pure {a : α} {Q : List (Exchange K) → Except Failure α × UnitOfWork K → Prop} :
    ((pure a : Step K (Dialogue K) α).runOn u).Ensures before Q ↔ Q before (.ok a, u) := Iff.rfl

theorem ensures_step_result {r : Except Failure α}
    {Q : List (Exchange K) → Except Failure α × UnitOfWork K → Prop} :
    (Step.runOn (ExceptT.mk (pure r) : Step K (Dialogue K) α) u).Ensures before Q
      ↔ Q before (r, u) := Iff.rfl

theorem ensures_lift {x : ExceptT Failure (Dialogue K) α}
    {Q : List (Exchange K) → Except Failure α × UnitOfWork K → Prop} :
    ((Step.lift x).runOn u).Ensures before Q
      ↔ x.run.Ensures before fun said r => Q said (r, u) := by
  change ((StateT.lift x.run).run u).Ensures before Q ↔ _
  rw [StateT.run_lift, ensures_bind]
  rfl

theorem ensures_write {w : StoreWrite}
    {Q : List (Exchange K) → Except Failure w.Value × UnitOfWork K → Prop} :
    ((write w).runOn u).Ensures before Q ↔ ∀ r, Q (before ++ [⟨.write w u, r⟩]) r := Iff.rfl

end

end Dialogue

end Gatehouse
