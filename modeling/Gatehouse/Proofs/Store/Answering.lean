/-
  Gatehouse/Proofs/Store/Answering.lean --- requests to stores in memory.

  A request is made of the collaborators that keep the stores in memory; what the hasher
  and the source of ids and tokens answer is left open.  So requests of several calls can
  be made of the same stores in any order: each finds the stores as the ones before it
  have left them.

  Main definitions: `Request.make`, `Memory.Answers`, `Memory.Plays`.
  Main statements: `Memory.Answers.credential`, `Memory.Answers.deleted`,
  `Memory.Answers.kept`, and for several requests `Memory.Plays.keyed` and
  `Memory.Plays.absent`.
-/
import Gatehouse.Proofs.Dialogue
import Gatehouse.Proofs.Store.Rollback

set_option autoImplicit false

namespace Gatehouse

/-! ## Making a request -/

/-- A question to the stores in memory or to the hasher. -/
def Question.put : (q : Question) → ExceptT Failure Premises.Run q.Value
  | .emailTaken email => UserStore.existsByEmail email
  | .userById id => UserStore.findById id
  | .userByEmail email => UserStore.findByEmail email
  | .credential kind token => CredentialStore.find kind token
  | .hash password => PasswordHasher.hash password
  | .verify password expected => PasswordHasher.verify password expected

/-- A write to the stores in memory. -/
def StoreWrite.make : (w : StoreWrite) → Step Memory.Kinds Premises.Run w.Value
  | .saveUser user => UserStore.save user
  | .activateUser id => UserStore.activate id
  | .saveCredential kind c => CredentialStore.save kind c
  | .deleteCredential kind token => CredentialStore.delete kind token
  | .enqueue mail => MailQueue.enqueue mail

/-- Makes a request of the collaborators in memory. -/
def Request.make : (c : Request Memory.Kinds) → Premises.Run c.Answer
  | .log event => MonadLog.log event
  | .freshId => MonadRandom.freshId
  | .freshToken => MonadRandom.freshToken
  | .freshBytes n => MonadRandom.freshBytes n
  | .ask q => q.put.run
  | .write w u => w.make.runOn u
  | .commitHandle h => nomatch h
  | .rollbackHandle h => nomatch h
  | .runUndo a => UnitActions.runUndo a
  | .runFinish a => nomatch a

/-- Whether a request may put a credential into the stores. -/
def Request.Puts {K : UnitKinds} : Request K → Prop
  | .write (.saveCredential _ _) _ => True
  | .runUndo _ => True
  | _ => False

namespace Memory

/-- Whether a request may be answered so on some stores, which are others afterwards. -/
def Answers (s : Memory) (x : Exchange Kinds) (s' : Memory) : Prop :=
  ∃ rt rt' : Runtime Premises, rt.world.memory = s ∧ rt'.world.memory = s'
    ∧ x.1.make.runOn rt = (.ok x.2, rt')

/-- Whether some requests, one after another, may be answered so. -/
inductive Plays : Memory → List (Exchange Kinds) → Memory → Prop
  | nil (s : Memory) : Plays s [] s
  | cons {s s₁ s₂ : Memory} {x : Exchange Kinds} {rest : List (Exchange Kinds)}
      (first : Answers s x s₁) (later : Plays s₁ rest s₂) : Plays s (x :: rest) s₂

theorem plays_append {s s' : Memory} {first rest : List (Exchange Kinds)} :
    Plays s (first ++ rest) s' ↔ ∃ t, Plays s first t ∧ Plays t rest s' := by
  induction first generalizing s with
  | nil =>
    constructor
    · intro h
      exact ⟨s, .nil s, h⟩
    · rintro ⟨t, ⟨⟩, h⟩
      exact h
  | cons x first ih =>
    constructor
    · rintro (_ | ⟨hx, h⟩)
      obtain ⟨t, hfirst, hrest⟩ := ih.1 h
      exact ⟨t, .cons hx hfirst, hrest⟩
    · rintro ⟨t, _ | ⟨hx, hfirst⟩, hrest⟩
      exact .cons hx (ih.2 ⟨t, hfirst, hrest⟩)

/-- What each request preserves, all of them preserve. -/
theorem Plays.invariant {P : Memory → Prop} {s s' : Memory} {said : List (Exchange Kinds)}
    (h : Plays s said s') (step : ∀ x ∈ said, ∀ t t', Answers t x t' → P t → P t') (hs : P s) :
    P s' := by
  induction h with
  | nil s => exact hs
  | cons first later ih =>
    refine ih ?_ (step _ List.mem_cons_self _ _ first hs)
    intro x hx
    exact step x (List.mem_cons_of_mem _ hx)

/-! ## What a request does to the stores -/

section

variable {s s' : Memory}

/-- A credential is looked up in the stores as they are. -/
theorem Answers.credential {kind : CredentialKind} {token : String}
    {found : Except Failure (Option Credential)}
    (h : Answers s ⟨.ask (.credential kind token), found⟩ s') :
    found = .ok (s.findCredential kind token) ∧ s' = s := by
  obtain ⟨rt, rt', rfl, rfl, hrun⟩ := h
  cases hrun
  exact ⟨rfl, rfl⟩

/-- A write that is answered took effect, or it failed and changed nothing. -/
theorem outcome_cases {α : Type} {u : UnitOfWork Kinds} {rt rt' : Runtime Premises}
    {result : Except Failure (Written α)} {r : Except Failure α × UnitOfWork Kinds}
    (h : outcome u rt result = (.ok r, rt')) :
    (∃ w, result = .ok w ∧ rt'.world.memory = w.memory)
      ∨ (∃ e, r.1 = .error e) ∧ rt'.world.memory = rt.world.memory := by
  cases result with
  | ok w =>
    cases h
    exact Or.inl ⟨w, rfl, rfl⟩
  | error e =>
    cases h
    exact Or.inr ⟨⟨e, rfl⟩, rfl⟩

/-- A credential that was deleted is no longer there. -/
theorem Answers.deleted {kind : CredentialKind} {token : String} {u v : UnitOfWork Kinds}
    (h : Answers s ⟨.write (.deleteCredential kind token) u, (.ok (), v)⟩ s') :
    (s'.credentials kind).get? token = none := by
  obtain ⟨rt, rt', rfl, rfl, hrun⟩ := h
  have hrun := (CredentialStore.runOn_delete u rt kind token).symm.trans hrun
  obtain ⟨w, hw, hmemory⟩ | ⟨⟨e, he⟩, -⟩ := outcome_cases hrun
  · rw [hmemory]
    obtain ⟨hnone, rfl⟩ | ⟨c, -, rfl⟩ := deleteCredential_ok hw
    · exact hnone
    · rw [remove, credentials_withCredentials_self, Table.get?_erase, if_pos rfl]
  · cases he

/-! ## Which credentials are kept -/

variable {kind : CredentialKind} {token : String} {c : Credential}

/-- What is kept after a write was kept before, unless the write took effect. -/
theorem kept_of_outcome {α : Type} {u : UnitOfWork Kinds} {rt rt' : Runtime Premises}
    {result : Except Failure (Written α)} {r : Except Failure α × UnitOfWork Kinds}
    {written : Prop} (h : outcome u rt result = (.ok r, rt')) (hs : rt.world.memory = s)
    (hc : (rt'.world.memory.credentials kind).get? token = some c)
    (took : ∀ w, result = .ok w → (w.memory.credentials kind).get? token = some c →
      (s.credentials kind).get? token = some c ∨ written) :
    (s.credentials kind).get? token = some c ∨ written := by
  obtain ⟨w, hw, hmemory⟩ | ⟨-, hmemory⟩ := outcome_cases h
  · rw [hmemory] at hc
    exact took w hw hc
  · rw [hmemory, hs] at hc
    exact Or.inl hc

/-- A credential that is kept after a write was kept before or was written. -/
theorem kept_of_write {w : StoreWrite} {u : UnitOfWork Kinds}
    {r : Except Failure w.Value × UnitOfWork Kinds} (h : Answers s ⟨.write w u, r⟩ s')
    (hc : (s'.credentials kind).get? token = some c) :
    (s.credentials kind).get? token = some c
      ∨ c.token = token ∧ (Request.write w u).Puts := by
  obtain ⟨rt, rt', rfl, rfl, hrun⟩ := h
  cases w with
  | saveUser user =>
    have hrun := (UserStore.runOn_save u rt user).symm.trans hrun
    refine kept_of_outcome hrun rfl hc ?_
    intro w hw hc
    rw [saveUser_ok hw, credentials_keepUser] at hc
    exact Or.inl hc
  | activateUser id =>
    have hrun := (UserStore.runOn_activate u rt id).symm.trans hrun
    refine kept_of_outcome hrun rfl hc ?_
    intro w hw hc
    obtain ⟨user, -, rfl⟩ := activateUser_ok hw
    rw [credentials_keepUser] at hc
    exact Or.inl hc
  | saveCredential other d =>
    have hrun := (CredentialStore.runOn_save u rt other d).symm.trans hrun
    refine kept_of_outcome hrun rfl hc ?_
    intro w hw hc
    rw [saveCredential_ok hw] at hc
    rcases kept_of_keep hc with hc | ⟨rfl, htoken⟩
    · exact Or.inl hc
    · exact Or.inr ⟨htoken, trivial⟩
  | deleteCredential other removed =>
    have hrun := (CredentialStore.runOn_delete u rt other removed).symm.trans hrun
    refine kept_of_outcome hrun rfl hc ?_
    intro w hw hc
    obtain ⟨-, rfl⟩ | ⟨d, -, rfl⟩ := deleteCredential_ok hw
    · exact Or.inl hc
    · exact Or.inl (kept_of_remove hc)
  | enqueue mail =>
    have hrun := (MailQueue.runOn_enqueue u rt mail).symm.trans hrun
    refine kept_of_outcome hrun rfl hc ?_
    intro w hw hc
    rw [enqueue_ok hw, credentials_queue] at hc
    exact Or.inl hc

/-- A credential that is kept after an undo action was kept before or was put back. -/
theorem kept_of_undo {a : Undo} (hc : ((s.undo a).credentials kind).get? token = some c) :
    (s.credentials kind).get? token = some c ∨ c.token = token := by
  cases a with
  | user id earlier =>
    have hsame : (s.undo (.user id earlier)).credentials kind = s.credentials kind := by
      cases earlier <;> cases kind <;> rfl
    rw [hsame] at hc
    exact Or.inl hc
  | saved other t => exact Or.inl (kept_of_remove hc)
  | deleted other d =>
    rcases kept_of_keep hc with hc | ⟨rfl, htoken⟩
    · exact Or.inl hc
    · exact Or.inr htoken
  | queued id =>
    have hsame : (s.undo (.queued id)).credentials kind = s.credentials kind := by
      cases kind <;> rfl
    rw [hsame] at hc
    exact Or.inl hc

/-- A credential that is kept after a request was kept before or was put into the stores. -/
theorem Answers.kept {x : Exchange Kinds} (h : Answers s x s')
    (hc : (s'.credentials kind).get? token = some c) :
    (s.credentials kind).get? token = some c ∨ c.token = token ∧ x.1.Puts := by
  rcases x with ⟨request, answer⟩
  cases request with
  | write w u => exact kept_of_write h hc
  | runUndo a =>
    obtain ⟨rt, rt', rfl, rfl, hrun⟩ := h
    cases hrun
    exact (kept_of_undo hc).imp_right fun htoken => ⟨htoken, trivial⟩
  | ask q =>
    obtain ⟨rt, rt', rfl, rfl, hrun⟩ := h
    cases q <;> (cases hrun; exact Or.inl hc)
  | log | freshId | freshToken | freshBytes =>
    obtain ⟨rt, rt', rfl, rfl, hrun⟩ := h
    cases hrun
    exact Or.inl hc
  | commitHandle handle => exact Empty.elim handle
  | rollbackHandle handle => exact Empty.elim handle
  | runFinish a => exact Empty.elim a

/-- Whatever is answered, credentials stay kept under their own tokens. -/
theorem Answers.keyed {x : Exchange Kinds} (h : Answers s x s') (keyed : Keyed s) :
    Keyed s' := by
  intro kind token c hc
  rcases h.kept hc with hc | ⟨htoken, -⟩
  · exact keyed kind token c hc
  · exact htoken

/-- A credential that is not there comes back only when one is put into the stores. -/
theorem Answers.absent {x : Exchange Kinds} (h : Answers s x s') (quiet : ¬ x.1.Puts)
    (absent : (s.credentials kind).get? token = none) :
    (s'.credentials kind).get? token = none := by
  cases hc : (s'.credentials kind).get? token with
  | none => rfl
  | some c =>
    rcases h.kept hc with hc | ⟨-, puts⟩
    · exact nomatch absent.symm.trans hc
    · exact absurd puts quiet

theorem Plays.keyed {said : List (Exchange Kinds)} (h : Plays s said s') (keyed : Keyed s) :
    Keyed s' :=
  h.invariant (fun _ _ _ _ answers hkeyed => answers.keyed hkeyed) keyed

theorem Plays.absent {said : List (Exchange Kinds)} (h : Plays s said s')
    (quiet : ∀ x ∈ said, ¬ x.1.Puts) (absent : (s.credentials kind).get? token = none) :
    (s'.credentials kind).get? token = none :=
  h.invariant (P := fun t => (t.credentials kind).get? token = none)
    (fun x hx _ _ answers habsent => answers.absent (quiet x hx) habsent) absent

end

end Memory

end Gatehouse
