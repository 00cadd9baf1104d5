/-
  Gatehouse/Proofs/Account/Serving.lean --- workflows whose collaborators do their part.

  When every collaborator does what it is told to and answers nothing that speaks against
  going on, a workflow can fail only where it depends on nobody: when the mail that carries
  its credential cannot be made.  When that mail can never be made, the workflow fails
  whatever the collaborators do, and nothing is committed.

  Main definitions: `Request.Served`, `Request.Commits`, `Dialogue.Fails`.
  Main statements: `Workflow.ok_or_unmailable`, `Workflow.fails_of_unmailable`.
-/
import Gatehouse.Proofs.Account.Conduct

set_option autoImplicit false

namespace Gatehouse

open Dialogue UnitOfWork

variable {K : UnitKinds} {α β : Type}

/-! ## Collaborators that do their part -/

/-- Whether a collaborator did what it was told to, and its answer speaks against nothing. -/
def Request.Served : (c : Request K) → c.Answer → Prop
  | .ask q, r => q.refusal? r = none
  | .write (.saveUser _) _, r => ∃ user, r.1 = .ok user ∧ user.id ≠ none
  | .write _ _, r => ∃ a, r.1 = .ok a
  | .commitHandle _, r => r = .ok ()
  | .runFinish _, r => r = .ok ()
  | _, _ => True

/-- Whether something that was written is made to last. -/
def Request.Commits : Request K → Prop
  | .commitHandle _ => True
  | .runFinish _ => True
  | _ => False

theorem Request.Served.write_ok {w : StoreWrite} {u : UnitOfWork K}
    {r : (Request.write w u).Answer} (h : Served (.write w u) r) : ∃ a, r.1 = .ok a := by
  cases w with
  | saveUser user =>
    obtain ⟨saved, hsaved, -⟩ := h
    exact ⟨saved, hsaved⟩
  | activateUser id => exact h
  | saveCredential kind c => exact h
  | deleteCredential kind token => exact h
  | enqueue mail => exact h

/-- A commit of which every part is served has no failures. -/
theorem failuresOf_eq_nil_of_served {handle : Option K.Handle} {finishers : List K.Finish}
    {outcomes : List (Except Failure Unit)}
    (each : outcomes.length = (committing handle finishers).length)
    (served : ∀ x ∈ answered (committing handle finishers) outcomes, x.1.Served x.2) :
    failuresOf outcomes = [] := by
  refine List.filterMap_eq_nil_iff.2 ?_
  intro r hr
  obtain ⟨i, hi, rfl⟩ := List.mem_iff_getElem.1 hr
  have hrequest : i < (committing handle finishers).length := each ▸ hi
  have hmem : (committing handle finishers)[i] outcomes[i]
      ∈ answered (committing handle finishers) outcomes := by
    refine List.mem_iff_getElem.2 ⟨i, ?_, ?_⟩
    · rw [answered, List.length_zipWith]
      omega
    · exact List.getElem_zipWith
  have hserved := served _ hmem
  rcases List.mem_append.1 (List.getElem_mem hrequest) with hhandle | hfinish
  · obtain ⟨h, -, heq⟩ := List.mem_map.1 hhandle
    rw [← heq] at hserved
    have hok : outcomes[i] = .ok () := hserved
    rw [hok]
  · obtain ⟨a, -, heq⟩ := List.mem_map.1 hfinish
    rw [← heq] at hserved
    have hok : outcomes[i] = .ok () := hserved
    rw [hok]

/-! ## The one failure that is left -/

section

variable {s : AccountService} {plan made : List WriteKind} {u v : UnitOfWork K}
  {said : List (Exchange K)}

/-- A write that was just made is among what was written. -/
theorem Underway.kind_mem {w : StoreWrite} {v' : UnitOfWork K} {r : (Request.write w v').Answer}
    (h : Underway u (said ++ [⟨.write w v', r⟩]) v made) : w.kind ∈ made := by
  generalize hwhole : said ++ [(⟨.write w v', r⟩ : Exchange K)] = whole at h
  cases h with
  | start => exact absurd hwhole (by simp)
  | asked => exact nomatch (List.append_inj' hwhole rfl).2
  | drew => exact nomatch (List.append_inj' hwhole rfl).2
  | logged => exact nomatch (List.append_inj' hwhole rfl).2
  | wrote =>
    obtain ⟨-, hlast⟩ := List.append_inj' hwhole rfl
    cases hlast
    exact List.mem_append_right _ (List.mem_singleton_self _)

/-- A step whose pieces are all served succeeds, or its credential cannot be mailed. -/
theorem StepCourse.ok_or_unmailable {outcome : Except Failure α}
    (h : StepCourse s plan u said outcome v) (served : ∀ x ∈ said, x.1.Served x.2) :
    (∃ a, outcome = .ok a)
      ∨ ∃ kind address token e, .saveCredential kind ∈ plan
        ∧ s.mailFor kind address token = .error e ∧ outcome = .error e := by
  cases h with
  | finished all a => exact Or.inl ⟨a, rfl⟩
  | @refused said v made rest next earlier part q r e refusal =>
    have hserved := served ⟨.ask q, r⟩ (List.mem_append_right _ (List.mem_singleton_self _))
    exact nomatch hserved.symm.trans refusal
  | @unwritten said v₀ made rest w earlier part e =>
    have hserved := served ⟨.write w v₀, (.error e, v)⟩
      (List.mem_append_right _ (List.mem_singleton_self _))
    obtain ⟨a, ha⟩ := hserved.write_ok
    exact nomatch ha
  | @unnamed said v₀ _ made rest next user saved earlier part unnamed =>
    have hserved := served ⟨.write (.saveUser user) v₀, (.ok saved, v)⟩
      (List.mem_append_right _ (List.mem_singleton_self _))
    obtain ⟨saved', hsaved, named⟩ := hserved
    cases hsaved
    exact absurd unnamed named
  | @unmailable said v₀ _ made rest next kind c address e earlier part unmailable =>
    refine Or.inr ⟨kind, address, c.token, e, ?_, unmailable, rfl⟩
    rw [part]
    exact List.mem_append_left _ earlier.kind_mem

/-- A workflow all of whose requests are served succeeds, or its credential cannot be
mailed. -/
theorem Course.ok_or_unmailable {r : Except Failure α} (h : Course s plan said r)
    (served : ∀ x ∈ said, x.1.Served x.2) :
    (∃ a, r = .ok a)
      ∨ ∃ kind address token e, .saveCredential kind ∈ plan
        ∧ s.mailFor kind address token = .error e ∧ r = .error e := by
  cases h with
  | @refused checks passed q r e refusal =>
    have hserved := served ⟨.ask q, r⟩ (List.mem_append_right _ (List.mem_singleton_self _))
    exact nomatch hserved.symm.trans refusal
  | @failed checks made ending passed id outcome v e step settled =>
    have hmade : ∀ x ∈ made, x.1.Served x.2 := fun x hx =>
      served x (List.mem_append_right _ (List.mem_append_left _ (List.mem_append_right _ hx)))
    have hending : ∀ x ∈ ending, x.1.Served x.2 := fun x hx =>
      served x (List.mem_append_right _ (List.mem_append_right _ hx))
    obtain ⟨a, rfl⟩ | ⟨kind, address, token, e', kept, unmailable, rfl⟩ :=
      step.ok_or_unmailable hmade
    · cases settled with
      | uncommitted _ each failed =>
        exact absurd (failuresOf_eq_nil_of_served each hending) failed
    · cases settled with
      | rolledBack _ discarded => exact Or.inr ⟨kind, address, token, e, kept, unmailable, rfl⟩
  | @succeeded checks made ending passed id outcome v a step settled event other =>
    exact Or.inl ⟨a, rfl⟩

end

theorem Workflow.ok_or_unmailable (s : AccountService) (w : Workflow) {said : List (Exchange K)}
    {r : Except Failure w.Result} (h : (w.run s).run.Runs said r)
    (served : ∀ x ∈ said, x.1.Served x.2) :
    (∃ a, r = .ok a)
      ∨ ∃ kind address token e, .saveCredential kind ∈ w.plan
        ∧ s.mailFor kind address token = .error e ∧ r = .error e :=
  (w.keeps_course s h).1.ok_or_unmailable served

/-! ## Steps that cannot succeed -/

namespace Dialogue

/-- Whether a piece of a step fails however its requests are answered. -/
def Fails (x : Step K (Dialogue K) α) : Prop :=
  ∀ u before, (x.runOn u).Ensures before fun _ r => ∃ e, r.1 = .error e

theorem fails_result (e : Failure) :
    Fails (ExceptT.mk (pure (.error e)) : Step K (Dialogue K) α) :=
  fun _ _ => ⟨e, rfl⟩

theorem Fails.bind {x : Step K (Dialogue K) α} (h : Fails x) (f : α → Step K (Dialogue K) β) :
    Fails (x >>= f) := by
  intro u before
  rw [ensures_step_bind]
  refine (h u before).mono ?_
  rintro said ⟨r, v⟩ ⟨e, he⟩
  obtain rfl : r = .error e := he
  exact ⟨e, rfl⟩

/-- What comes after a piece of a step decides when it fails always. -/
theorem fails_of_next (x : Step K (Dialogue K) α) {f : α → Step K (Dialogue K) β}
    (h : ∀ a, Fails (f a)) : Fails (x >>= f) := by
  intro u before
  rw [ensures_step_bind, ensures_iff]
  rintro said ⟨e | a, v⟩ -
  · exact ⟨e, rfl⟩
  · exact h a v _

end Dialogue

/-! ## Runs in which nothing is committed -/

/-- Whether nothing is made to last in some exchanges. -/
def Uncommitted (said : List (Exchange K)) : Prop := ∀ x ∈ said, ¬ x.1.Commits

theorem uncommitted_nil : Uncommitted ([] : List (Exchange K)) := nofun

theorem Uncommitted.append {first rest : List (Exchange K)} (hfirst : Uncommitted first)
    (hrest : Uncommitted rest) : Uncommitted (first ++ rest) := by
  intro x hx
  rcases List.mem_append.1 hx with hx | hx
  · exact hfirst x hx
  · exact hrest x hx

theorem Uncommitted.concat {said : List (Exchange K)} {x : Exchange K} (h : Uncommitted said)
    (hx : ¬ x.1.Commits) : Uncommitted (said ++ [x]) :=
  h.append (List.forall_mem_singleton.2 hx)

section

variable {s : AccountService} {plan made : List WriteKind} {u v : UnitOfWork K}
  {said : List (Exchange K)}

theorem Underway.uncommitted (h : Underway u said v made) : Uncommitted said := by
  induction h with
  | start => exact uncommitted_nil
  | asked _ _ ih => exact ih.concat id
  | drew _ _ ih => exact ih.concat id
  | logged _ _ ih => exact ih.concat id
  | wrote _ ih => exact ih.concat id

theorem StepCourse.uncommitted {outcome : Except Failure α}
    (h : StepCourse s plan u said outcome v) : Uncommitted said := by
  cases h with
  | finished all => exact all.uncommitted
  | refused earlier => exact earlier.uncommitted.concat id
  | unwritten earlier => exact earlier.uncommitted.concat id
  | unnamed earlier => exact earlier.uncommitted
  | unmailable earlier => exact earlier.uncommitted

theorem uncommitted_discarding (handle : Option K.Handle) (discarded : Except Failure Unit) :
    Uncommitted (discarding handle discarded) := by
  cases handle with
  | none => exact uncommitted_nil
  | some h =>
    cases discarded with
    | ok _ => exact uncommitted_nil.concat id
    | error e => exact (uncommitted_nil.concat (x := ⟨.rollbackHandle h, .error e⟩) id).concat id

theorem uncommitted_undoing (undos : List K.Undo) : Uncommitted (undoing undos) := by
  refine Uncommitted.concat ?_ id
  intro x hx
  obtain ⟨a, -, rfl⟩ := List.mem_map.1 hx
  exact id

/-- Whether every run that comes after some exchanges fails and commits nothing. -/
def FailsUncommitted (x : ExceptT Failure (Dialogue K) α) (before : List (Exchange K)) : Prop :=
  x.run.Ensures before fun said r => (∃ e, r = .error e) ∧ Uncommitted said

/-- A check is made that may end the workflow before it fails. -/
theorem Uncommitted.ask {q : Question} {f : q.Value → ExceptT Failure (Dialogue K) α}
    (h : Uncommitted said) (go : ∀ a, Uncommitted (said ++ [⟨.ask q, .ok a⟩]) →
      FailsUncommitted (f a) (said ++ [⟨.ask q, .ok a⟩])) :
    FailsUncommitted (Dialogue.ask q >>= f) said := by
  rw [FailsUncommitted, ensures_attempt_bind]
  refine ensures_ask.2 ?_
  rintro (e | a)
  · exact ⟨⟨e, rfl⟩, h.concat id⟩
  · exact go a (h.concat id)

/-- A step that cannot succeed is rolled back. -/
theorem Uncommitted.perform {step : Step K (Dialogue K) α}
    {tell : α → ExceptT Failure (Dialogue K) β} (h : Uncommitted said)
    (completes : ∀ u, Completes s plan u u [] step) (fails : Fails step) :
    FailsUncommitted (UnitOfWork.perform step >>= tell) said := by
  rw [FailsUncommitted, ensures_attempt_bind, ensures_iff]
  intro rest r hperform
  obtain ⟨id', made, outcome, v, ending, rfl, hmade, settled⟩ := runs_perform hperform
  obtain ⟨e, rfl⟩ := ensures_iff.1 (fails (empty K id') []) made (outcome, v) hmade
  have hstep : StepCourse s plan (empty K id') made (.error e : Except Failure α) v :=
    ensures_iff.1 (completes (empty K id')) made (.error e, v) hmade
  have hopening : Uncommitted (opening (K := K) id') :=
    (uncommitted_nil.concat (x := ⟨.freshId, id'⟩) id).concat id
  cases settled with
  | rolledBack _ discarded =>
    have hnote : Uncommitted (K := K) [⟨.log (failedNote e), ()⟩] := uncommitted_nil.concat id
    exact ⟨⟨e, rfl⟩, h.append ((hopening.append hstep.uncommitted).append
      ((hnote.append (uncommitted_discarding v.handle discarded)).append
        (uncommitted_undoing v.undos)))⟩

end

/-! ## Workflows whose mail cannot be made -/

namespace AccountService

variable (s : AccountService)

theorem fails_register (input : SignupInput)
    (never : ∀ address token, ∃ e, s.mailFor .activation address token = .error e) :
    Fails (s.register input : Step K (Dialogue K) User) := by
  refine fails_of_next _ fun hash => fails_of_next _ fun user => fails_of_next _ fun id =>
    fails_of_next _ fun activation => fails_of_next _ fun _ => Fails.bind ?_ _
  obtain ⟨e, he⟩ := never user.email activation.token
  rw [register.liftExcept, show activationMail user.email s.config.activationUrl activation.token
    = .error e from he]
  exact fails_result e

theorem fails_openRecovery (user : User) (owner : Uuid)
    (never : ∀ address token, ∃ e, s.mailFor .recovery address token = .error e) :
    Fails (s.openRecovery user owner : Step K (Dialogue K) Unit) := by
  refine fails_of_next _ fun recovery => fails_of_next _ fun _ => Fails.bind ?_ _
  obtain ⟨e, he⟩ := never user.email recovery.token
  rw [show recoveryMail user.email s.config.passwordRecoveryUrl recovery.token = .error e from he]
  exact fails_result e

theorem signup_failsUncommitted (input : SignupInput)
    (never : ∀ address token, ∃ e, s.mailFor .activation address token = .error e) :
    FailsUncommitted (s.signup input : ExceptT Failure (Dialogue K) User) [] := by
  refine uncommitted_nil.ask (q := .emailTaken _) ?_
  rintro (_ | _) hasked
  · exact hasked.perform (fun u => s.register_completes u input) (s.fails_register input never)
  · exact ⟨⟨_, rfl⟩, hasked⟩

theorem createRecovery_failsUncommitted (email : String)
    (never : ∀ address token, ∃ e, s.mailFor .recovery address token = .error e) :
    FailsUncommitted (s.createRecovery email : ExceptT Failure (Dialogue K) Unit) [] := by
  refine uncommitted_nil.ask (q := .userByEmail _) ?_
  rintro (_ | user) hasked
  · exact ⟨⟨_, rfl⟩, hasked⟩
  · cases hid : user.id with
    | none =>
      simp only [storedId, hid]
      exact ⟨⟨_, rfl⟩, hasked⟩
    | some id =>
      simp only [storedId, hid]
      exact hasked.perform (fun u => s.openRecovery_completes u email user id)
        (s.fails_openRecovery user id never)

end AccountService

/-- A workflow keeps credentials of one kind only. -/
theorem Workflow.kind_unique (w : Workflow) {kind kind' : CredentialKind}
    (h : .saveCredential kind ∈ w.plan) (h' : .saveCredential kind' ∈ w.plan) : kind' = kind := by
  cases w with
  | signup input => simp_all [plan]
  | createRecovery email => simp_all [plan]
  | activate token => exact absurd h (by simp [plan])
  | recoverPassword input => exact absurd h (by simp [plan])

/-- A workflow that keeps a credential whose mail can never be made fails in every run, and
commits nothing. -/
theorem Workflow.fails_of_unmailable (s : AccountService) (w : Workflow) {kind : CredentialKind}
    (kept : .saveCredential kind ∈ w.plan)
    (never : ∀ address token, ∃ e, s.mailFor kind address token = .error e)
    {said : List (Exchange K)} {r : Except Failure w.Result} (h : (w.run s).run.Runs said r) :
    (∃ e, r = .error e) ∧ Uncommitted said := by
  cases w with
  | signup input =>
    obtain rfl : kind = .activation := by simpa [plan] using kept
    exact ensures_iff.1 (s.signup_failsUncommitted input never) said r h
  | createRecovery email =>
    obtain rfl : kind = .recovery := by simpa [plan] using kept
    exact ensures_iff.1 (s.createRecovery_failsUncommitted email never) said r h
  | activate token => exact absurd kept (by simp [plan])
  | recoverPassword input => exact absurd kept (by simp [plan])

end Gatehouse
