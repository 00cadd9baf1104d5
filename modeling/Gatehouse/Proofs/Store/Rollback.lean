/-
  Gatehouse/Proofs/Store/Rollback.lean --- what a rollback makes of many writes.

  Any writes to the users, the activations and the recoveries may share one unit of
  work, some of them failing.  Rolling back runs the undo actions in the order in which
  they were registered, so for each key the last one decides what is left under it.
  That is the value that was there before the first write if the key was written only
  once and no credential was replaced.  It need not be otherwise: a user that was saved
  and then activated is still there after the rollback.

  Main definitions: `Memory.Write`, `Memory.Place`, `Memory.putsBack`, `Memory.Trail`.
  Main statements: `Memory.rollback_restores_iff`, `Memory.Trail.restores_of_once`,
  `Memory.rollback_keeps_activated`, `Memory.rollback_loses_replaced`.
-/
import Gatehouse.Proofs.Account.Premises
import Gatehouse.Proofs.Store.Writes

set_option autoImplicit false

namespace Gatehouse.Memory

/-! ## Writes in one unit of work -/

/-- A write to the users or to the credentials of a kind. -/
inductive Write where
  | saveUser (u : User)
  | activateUser (id : Uuid)
  | saveCredential (kind : CredentialKind) (c : Credential)
  | deleteCredential (kind : CredentialKind) (token : String)
  deriving DecidableEq, Repr, Inhabited

/-- A write as a piece of a step. -/
def Write.run : Write → Step Kinds Premises.Run Unit
  | .saveUser u => do
      let _ ← UserStore.save u
      pure ()
  | .activateUser id => UserStore.activate id
  | .saveCredential kind c => CredentialStore.save kind c
  | .deleteCredential kind token => CredentialStore.delete kind token

/-- A write, and which stores are out of order when it is made. -/
structure Attempt where
  outages : Outages
  write : Write
  deriving DecidableEq, Repr, Inhabited

/-- The stores with other outages. -/
def withOutages (s : Memory) (outages : Outages) : Memory := { s with outages }

/-- Makes some writes in a unit of work, whichever of them fail. -/
def attemptAll (u : UnitOfWork Kinds) : List Attempt → Premises.Run (UnitOfWork Kinds)
  | [] => pure u
  | a :: rest => do
      Virtual.modifyWorld fun w => { w with memory := w.memory.withOutages a.outages }
      let (_, u) ← a.write.run.runOn u
      attemptAll u rest

/-- Makes some writes in a unit of work of their own and rolls it back. -/
def attemptAndRollBack (attempts : List Attempt) : Premises.Run Unit := do
  let u ← UnitOfWork.start
  let u ← attemptAll u attempts
  u.rollback

/-! ## Keys and their values -/

/-- A key of one of the maps. -/
inductive Place where
  | user (id : Uuid)
  | credential (kind : CredentialKind) (token : String)
  deriving DecidableEq, Repr, Inhabited

/-- What is kept under a key. -/
def valueAt (s : Memory) : Place → Option (User ⊕ Credential)
  | .user id => (s.users.get? id).map .inl
  | .credential kind token => ((s.credentials kind).get? token).map .inr

/-- The key whose value an undo action sets, none if it is about mails. -/
def Undo.place : Undo → Option Place
  | .user id _ => some (.user id)
  | .saved kind token => some (.credential kind token)
  | .deleted kind c => some (.credential kind c.token)
  | .queued _ => none

/-- The value that an undo action leaves under its key. -/
def Undo.earlier : Undo → Option (User ⊕ Credential)
  | .user _ earlier => earlier.map .inl
  | .saved _ _ => none
  | .deleted _ c => some (.inr c)
  | .queued _ => none

/-- What undo actions leave under a key: what the last one for it puts back, or, if none
is for it, what was there. -/
def putsBack (undos : List Undo) (p : Place) (now : Option (User ⊕ Credential)) :
    Option (User ⊕ Credential) :=
  ((undos.reverse.find? fun a => a.place = some p).map Undo.earlier).getD now

/-- Whether the three maps are the same. -/
def SameMaps (s t : Memory) : Prop :=
  s.users = t.users ∧ s.activations = t.activations ∧ s.recoveries = t.recoveries

/-- The maps are the same when every key has the same value. -/
theorem sameMaps_iff {s t : Memory} : SameMaps s t ↔ ∀ p, s.valueAt p = t.valueAt p := by
  constructor
  · rintro ⟨hu, ha, hr⟩ (id | ⟨_ | _, token⟩)
    · rw [valueAt, valueAt, hu]
    · simp only [valueAt, credentials, ha]
    · simp only [valueAt, credentials, hr]
  · intro h
    refine ⟨?_, ?_, ?_⟩
    · apply Table.ext_get?
      intro id
      exact Option.map_injective (fun _ _ => Sum.inl.inj) (h (.user id))
    · apply Table.ext_get?
      intro token
      exact Option.map_injective (fun _ _ => Sum.inr.inj) (h (.credential .activation token))
    · apply Table.ext_get?
      intro token
      exact Option.map_injective (fun _ _ => Sum.inr.inj) (h (.credential .recovery token))

section

variable (s : Memory) (p : Place)

theorem valueAt_keepUser (id : Uuid) (u : User) :
    (s.keepUser id u).valueAt p = if p = .user id then some (.inl u) else s.valueAt p := by
  cases p with
  | user j =>
    simp only [valueAt, keepUser_users, Table.get?_insert, Place.user.injEq]
    split <;> rfl
  | credential kind token =>
    rw [if_neg (by simp)]
    cases kind <;> rfl

theorem valueAt_withCredentials (kind : CredentialKind) (t : Table String Credential) :
    (s.withCredentials kind t).valueAt p = match p with
      | .user _ => s.valueAt p
      | .credential other token =>
          if other = kind then (t.get? token).map .inr else s.valueAt p := by
  cases p with
  | user j => simp only [valueAt, withCredentials_users]
  | credential other token =>
    by_cases h : other = kind
    · subst h
      simp only [valueAt, credentials_withCredentials_self, if_pos]
    · simp only [valueAt, credentials_withCredentials_of_ne _ h, if_neg h]

theorem valueAt_keep (kind : CredentialKind) (c : Credential) :
    (s.keep kind c).valueAt p
      = if p = .credential kind c.token then some (.inr c) else s.valueAt p := by
  rw [keep, valueAt_withCredentials]
  cases p with
  | user j => rw [if_neg (by simp)]
  | credential other token =>
    simp only [valueAt, Table.get?_insert, Place.credential.injEq]
    by_cases hkind : other = kind
    · subst hkind
      by_cases htoken : token = c.token <;> simp [htoken]
    · simp [hkind]

theorem valueAt_remove (kind : CredentialKind) (token : String) :
    (s.remove kind token).valueAt p
      = if p = .credential kind token then none else s.valueAt p := by
  rw [remove, valueAt_withCredentials]
  cases p with
  | user j => rw [if_neg (by simp)]
  | credential other t =>
    simp only [valueAt, Table.get?_erase, Place.credential.injEq]
    by_cases hkind : other = kind
    · subst hkind
      by_cases htoken : t = token <;> simp [htoken]
    · simp [hkind]

/-- An undo action sets the value of its own key only. -/
theorem valueAt_undo (a : Undo) :
    (s.undo a).valueAt p = if a.place = some p then a.earlier else s.valueAt p := by
  cases a with
  | user id earlier =>
    cases earlier with
    | some u =>
      have h := valueAt_keepUser s p id u
      simp only [Undo.place, Option.some.injEq, eq_comm] at h ⊢
      exact h
    | none =>
      cases p with
      | user j =>
        simp only [valueAt, undo, Table.get?_erase, Undo.place, Undo.earlier, Option.some.injEq,
          Place.user.injEq, eq_comm]
        split <;> rfl
      | credential kind token =>
        rw [if_neg (by simp [Undo.place])]
        cases kind <;> rfl
  | saved kind token =>
    have h := valueAt_remove s p kind token
    simp only [Undo.place, Option.some.injEq, eq_comm] at h ⊢
    exact h
  | deleted kind c =>
    have h := valueAt_keep s p kind c
    simp only [Undo.place, Option.some.injEq, eq_comm] at h ⊢
    exact h
  | queued id =>
    rw [if_neg (by simp [Undo.place])]
    cases p with
    | user j => rfl
    | credential kind token => cases kind <;> rfl

/-- What a sequence of undo actions leaves under a key. -/
theorem valueAt_foldl_undo (undos : List Undo) :
    (undos.foldl undo s).valueAt p = putsBack undos p (s.valueAt p) := by
  induction undos generalizing s with
  | nil => rfl
  | cons a rest ih =>
    rw [List.foldl_cons, ih, valueAt_undo]
    unfold putsBack
    rw [List.reverse_cons, List.find?_append]
    cases rest.reverse.find? fun b => b.place = some p with
    | some b => rfl
    | none =>
      by_cases h : a.place = some p
      · simp [h]
      · simp [h]

end

/-! ## What a write does -/

/-- What a write does to the stores that takes effect, and how it is undone. -/
inductive Lands (s : Memory) : Undo → Memory → Prop
  | user (id : Uuid) (u : User) : Lands s (.user id (s.users.get? id)) (s.keepUser id u)
  | saved (kind : CredentialKind) (c : Credential) :
      Lands s (.saved kind c.token) (s.keep kind c)
  | deleted (kind : CredentialKind) (token : String) (c : Credential)
      (found : (s.credentials kind).get? token = some c) :
      Lands s (.deleted kind c) (s.remove kind token)

/-- The undo actions that some writes registered, and the stores after them. -/
inductive Trail (start : Memory) : List Undo → Memory → Prop
  | nil : Trail start [] start
  | outage {undos : List Undo} {s : Memory} (earlier : Trail start undos s) (outages : Outages) :
      Trail start undos (s.withOutages outages)
  | landed {undos : List Undo} {s : Memory} {a : Undo} {after : Memory}
      (earlier : Trail start undos s) (lands : Lands s a after) : Trail start (undos ++ [a]) after

/-- A write takes effect and registers how it is undone, or it changes nothing. -/
theorem Write.run_cases (w : Write) (u : UnitOfWork Kinds) (rt : Runtime Premises) :
    ∃ r u₁ rt₁, Virtual.runOn (w.run.runOn u) rt = (.ok (r, u₁), rt₁)
      ∧ ((u₁ = u ∧ rt₁.world.memory = rt.world.memory)
        ∨ ∃ a, u₁ = u.addUndo a ∧ Lands rt.world.memory a rt₁.world.memory) := by
  cases w with
  | saveUser v =>
    simp only [Write.run, Step.runOn_bind, UserStore.runOn_save]
    cases hsave : rt.world.memory.saveUser (rt.entropy.idAt rt.entropy.drawn) v with
    | error e => exact ⟨_, _, _, rfl, Or.inl ⟨rfl, rfl⟩⟩
    | ok w =>
      obtain rfl := saveUser_ok hsave
      exact ⟨_, _, _, rfl, Or.inr ⟨_, rfl, .user _ _⟩⟩
  | activateUser id =>
    simp only [Write.run, UserStore.runOn_activate]
    cases hactivate : rt.world.memory.activateUser id with
    | error e => exact ⟨_, _, _, rfl, Or.inl ⟨rfl, rfl⟩⟩
    | ok w =>
      obtain ⟨v, hv, rfl⟩ := activateUser_ok hactivate
      refine ⟨_, _, _, rfl, Or.inr ⟨_, rfl, ?_⟩⟩
      rw [← hv]
      exact .user _ _
  | saveCredential kind c =>
    simp only [Write.run, CredentialStore.runOn_save]
    cases hsave : rt.world.memory.saveCredential kind c with
    | error e => exact ⟨_, _, _, rfl, Or.inl ⟨rfl, rfl⟩⟩
    | ok w =>
      obtain rfl := saveCredential_ok hsave
      exact ⟨_, _, _, rfl, Or.inr ⟨_, rfl, .saved kind c⟩⟩
  | deleteCredential kind token =>
    simp only [Write.run, CredentialStore.runOn_delete]
    cases hdelete : rt.world.memory.deleteCredential kind token with
    | error e => exact ⟨_, _, _, rfl, Or.inl ⟨rfl, rfl⟩⟩
    | ok w =>
      obtain ⟨-, rfl⟩ | ⟨c, hc, rfl⟩ := deleteCredential_ok hdelete
      · exact ⟨_, _, _, rfl, Or.inl ⟨rfl, rfl⟩⟩
      · exact ⟨_, _, _, rfl, Or.inr ⟨_, rfl, .deleted kind token c hc⟩⟩

theorem runOn_attemptAll_cons (a : Attempt) (rest : List Attempt) {u u₁ : UnitOfWork Kinds}
    {rt rt₁ : Runtime Premises} {r : Except Failure Unit}
    (h : Virtual.runOn (a.write.run.runOn u)
      (rt.withMemory (rt.world.memory.withOutages a.outages)) = (.ok (r, u₁), rt₁)) :
    (attemptAll u (a :: rest)).runOn rt = (attemptAll u₁ rest).runOn rt₁ := by
  rw [attemptAll, Virtual.runOn_bind]
  change Virtual.runOn _ (rt.withMemory (rt.world.memory.withOutages a.outages)) = _
  rw [Virtual.runOn_bind, h]

/-- Writes leave a trail of undo actions in their unit of work. -/
theorem attemptAll_trail {start : Memory} (attempts : List Attempt) {u : UnitOfWork Kinds}
    {rt : Runtime Premises} (h : Trail start u.undos rt.world.memory) :
    ∃ u₁ rt₁, (attemptAll u attempts).runOn rt = (.ok u₁, rt₁)
      ∧ Trail start u₁.undos rt₁.world.memory := by
  induction attempts generalizing u rt with
  | nil => exact ⟨u, rt, rfl, h⟩
  | cons a rest ih =>
    obtain ⟨r, u₁, rt₁, hrun, hcases⟩ := a.write.run_cases u
      (rt.withMemory (rt.world.memory.withOutages a.outages))
    have next : Trail start u₁.undos rt₁.world.memory := by
      rcases hcases with ⟨rfl, same⟩ | ⟨b, rfl, lands⟩
      · rw [same]
        exact h.outage a.outages
      · exact (h.outage a.outages).landed lands
    obtain ⟨u₂, rt₂, hrest, htrail⟩ := ih next
    exact ⟨u₂, rt₂, (runOn_attemptAll_cons a rest hrun).trans hrest, htrail⟩

/-! ## Rolling back -/

theorem runOn_attemptAndRollBack {attempts : List Attempt} {u : UnitOfWork Kinds}
    {rt rt₁ : Runtime Premises}
    (h : (attemptAll (.empty Kinds (UnitOfWork.nextId rt)) attempts).runOn (UnitOfWork.opened rt)
      = (.ok u, rt₁)) :
    ∃ rt₂, (attemptAndRollBack attempts).runOn rt = (.ok (), rt₂)
      ∧ rt₂.world.memory = u.undos.foldl undo rt₁.world.memory := by
  rw [attemptAndRollBack, Virtual.runOn_bind, UnitOfWork.runOn_start]
  dsimp only
  rw [Virtual.runOn_bind, h]
  exact ⟨_, UnitOfWork.runOn_rollback u rt₁, rfl⟩

/-! ## When each key is written once -/

/-- Whether every credential is kept under its own token. -/
def Keyed (s : Memory) : Prop :=
  ∀ kind token c, (s.credentials kind).get? token = some c → c.token = token

section

variable {start s after : Memory} {a : Undo} {undos : List Undo} {p : Place}

/-- A write changes no value but that of the key that it is undone for. -/
theorem Lands.valueAt_of_ne (h : Lands s a after) (keyed : Keyed s) (hp : a.place ≠ some p) :
    after.valueAt p = s.valueAt p := by
  cases h with
  | user id u =>
    rw [valueAt_keepUser, if_neg]
    rintro rfl
    exact hp rfl
  | saved kind c =>
    rw [valueAt_keep, if_neg]
    rintro rfl
    exact hp rfl
  | deleted kind token c found =>
    rw [valueAt_remove, if_neg]
    rintro rfl
    exact hp (by rw [Undo.place, keyed kind token c found])

/-- What a write is undone to is what it found, unless it saved a credential. -/
theorem Lands.earlier_eq (h : Lands s a after) (keyed : Keyed s) (hp : a.place = some p) :
    a.earlier = s.valueAt p ∨ ∃ kind token, a = .saved kind token := by
  cases h with
  | user id u =>
    obtain rfl := Option.some.inj hp
    exact Or.inl rfl
  | saved kind c => exact Or.inr ⟨kind, c.token, rfl⟩
  | deleted kind token c found =>
    obtain rfl := Option.some.inj hp
    refine Or.inl ?_
    rw [valueAt, keyed kind token c found, found]
    rfl

theorem Lands.keyed (h : Lands s a after) (keyed : Keyed s) : Keyed after := by
  intro kind token c hc
  have hvalue : after.valueAt (.credential kind token) = some (.inr c) := by
    rw [valueAt, hc]
    rfl
  have fromEarlier : s.valueAt (.credential kind token) = some (.inr c) → c.token = token := by
    intro hs
    obtain ⟨d, hd, hdc⟩ := Option.map_eq_some_iff.1 hs
    rw [← Sum.inr.inj hdc]
    exact keyed kind token d hd
  cases h with
  | user id u =>
    rw [valueAt_keepUser, if_neg (by simp)] at hvalue
    exact fromEarlier hvalue
  | saved other d =>
    rw [valueAt_keep] at hvalue
    split at hvalue
    · rename_i same
      cases hvalue
      exact (Place.credential.inj same).2.symm
    · exact fromEarlier hvalue
  | deleted other t d found =>
    rw [valueAt_remove] at hvalue
    split at hvalue
    · cases hvalue
    · exact fromEarlier hvalue

theorem Trail.keyed (h : Trail start undos s) (keyed : Keyed start) : Keyed s := by
  induction h with
  | nil => exact keyed
  | outage earlier outages ih => exact ih
  | landed earlier lands ih => exact lands.keyed ih

/-- A key for which nothing is undone has its first value. -/
theorem Trail.valueAt_of_unwritten (h : Trail start undos s) (keyed : Keyed start)
    (hp : ∀ a ∈ undos, a.place ≠ some p) : s.valueAt p = start.valueAt p := by
  induction h with
  | nil => rfl
  | @outage _ s earlier outages ih =>
    have same : (s.withOutages outages).valueAt p = s.valueAt p := by
      cases p with
      | user id => rfl
      | credential kind token => cases kind <;> rfl
    rw [same]
    exact ih hp
  | @landed undos s a after earlier lands ih =>
    rw [lands.valueAt_of_ne (earlier.keyed keyed)
      (hp a (List.mem_append_right _ (List.mem_singleton_self a)))]
    exact ih fun b hb => hp b (List.mem_append_left _ hb)

/-- Where credentials are kept under their own tokens, the maps are restored exactly when
for each key the last write on it is undone to the first value of the key. -/
theorem Trail.restores_iff (h : Trail start undos s) (keyed : Keyed start) :
    (∀ p, putsBack undos p (s.valueAt p) = start.valueAt p)
      ↔ ∀ p a, undos.reverse.find? (fun b => b.place = some p) = some a →
          a.earlier = start.valueAt p := by
  constructor
  · intro restores p a ha
    have hp := restores p
    rw [putsBack, ha] at hp
    exact hp
  · intro last p
    unfold putsBack
    cases hfind : undos.reverse.find? fun b => b.place = some p with
    | some a => exact last p a hfind
    | none =>
      refine h.valueAt_of_unwritten keyed ?_
      intro a ha
      have hne := List.find?_eq_none.1 hfind a (List.mem_reverse.2 ha)
      simpa using hne

/-- The maps are restored if each key was written once and no credential replaced another. -/
theorem Trail.restores_of_once (h : Trail start undos s) (keyed : Keyed start)
    (once : (undos.map Undo.place).Nodup)
    (replaced : ∀ kind token, .saved kind token ∈ undos →
      (start.credentials kind).get? token = none) :
    ∀ p, putsBack undos p (s.valueAt p) = start.valueAt p := by
  have first : ∀ a ∈ undos, ∀ p, a.place = some p → a.earlier = start.valueAt p := by
    induction h with
    | nil => exact nofun
    | outage earlier outages ih => exact ih once replaced
    | @landed undos s b after earlier lands ih =>
      rw [List.map_append, List.nodup_append] at once
      intro a ha p hp
      rcases List.mem_append.1 ha with ha | ha
      · exact ih once.1 (fun kind token hmem => replaced kind token (List.mem_append_left _ hmem))
          a ha p hp
      · obtain rfl := List.mem_singleton.1 ha
        rcases lands.earlier_eq (earlier.keyed keyed) hp with hfound | ⟨kind, token, rfl⟩
        · rw [hfound]
          refine earlier.valueAt_of_unwritten keyed ?_
          intro c hc same
          exact once.2.2 c.place (List.mem_map_of_mem hc) a.place
            (List.mem_map_of_mem (List.mem_singleton_self a)) (same.trans hp.symm)
        · obtain rfl := Option.some.inj hp
          rw [valueAt, replaced kind token (List.mem_append_right _ ha)]
          rfl
  refine (h.restores_iff keyed).2 ?_
  intro p a ha
  refine first a (List.mem_reverse.1 (List.mem_of_find?_eq_some ha)) p ?_
  simpa using List.find?_some ha

end

/-- The writes of a unit of work leave a trail.  Rolling it back leaves the maps as they
were exactly when, for each key, the last undo action for it puts its first value back,
or, without any, its first value is still there; which it is where credentials are kept
under their own tokens. -/
theorem rollback_restores_iff (attempts : List Attempt) (rt : Runtime Premises) :
    ∃ u rt₁ rt₂,
      (attemptAll (.empty Kinds (UnitOfWork.nextId rt)) attempts).runOn (UnitOfWork.opened rt)
          = (.ok u, rt₁)
        ∧ Trail rt.world.memory u.undos rt₁.world.memory
        ∧ (attemptAndRollBack attempts).runOn rt = (.ok (), rt₂)
        ∧ (SameMaps rt₂.world.memory rt.world.memory
          ↔ ∀ p, putsBack u.undos p (rt₁.world.memory.valueAt p) = rt.world.memory.valueAt p)
        ∧ (Keyed rt.world.memory → (SameMaps rt₂.world.memory rt.world.memory
          ↔ ∀ p a, u.undos.reverse.find? (fun b => b.place = some p) = some a →
              a.earlier = rt.world.memory.valueAt p)) := by
  have start : Trail rt.world.memory (UnitOfWork.empty Kinds (UnitOfWork.nextId rt)).undos
      (UnitOfWork.opened rt).world.memory := .nil
  obtain ⟨u, rt₁, hrun, htrail⟩ := attemptAll_trail attempts start
  obtain ⟨rt₂, hroll, hmemory⟩ := runOn_attemptAndRollBack hrun
  have hiff : SameMaps rt₂.world.memory rt.world.memory
      ↔ ∀ p, putsBack u.undos p (rt₁.world.memory.valueAt p) = rt.world.memory.valueAt p := by
    rw [sameMaps_iff, hmemory]
    simp only [valueAt_foldl_undo]
  refine ⟨u, rt₁, rt₂, hrun, htrail, hroll, hiff, ?_⟩
  intro keyed
  rw [hiff]
  exact htrail.restores_iff keyed

/-! ## When a key is written twice -/

section

variable (v : UnitOfWork Kinds) (rt : Runtime Premises)

theorem runOn_saveUser {id : Uuid} {u : User} (works : rt.world.memory.outages.userSaves = false)
    (hid : u.id = some id) :
    Virtual.runOn ((Write.saveUser u).run.runOn v) rt
      = (.ok (.ok (), v.addUndo (.user id (rt.world.memory.users.get? id))),
        rt.drew.withMemory (rt.world.memory.keepUser id u)) := by
  have hkept : ({ u with id := some id } : User) = u := by rw [← hid]
  simp only [Write.run, Step.runOn_bind, UserStore.runOn_save, saveUser, insertUser, works, hid,
    Option.getD_some, hkept]
  rfl

theorem runOn_activateUser {id : Uuid} {u : User}
    (known : rt.world.memory.users.get? id = some u) :
    Virtual.runOn ((Write.activateUser id).run.runOn v) rt
      = (.ok (.ok (), v.addUndo (.user id (some u))),
        rt.withMemory (rt.world.memory.keepUser id { u with isActive := true })) := by
  simp only [Write.run, UserStore.runOn_activate, activateUser, known]
  rfl

theorem runOn_saveCredential {kind : CredentialKind} (c : Credential)
    (works : rt.world.memory.cannotSave kind = false) :
    Virtual.runOn ((Write.saveCredential kind c).run.runOn v) rt
      = (.ok (.ok (), v.addUndo (.saved kind c.token)),
        rt.withMemory (rt.world.memory.keep kind c)) := by
  simp only [Write.run, CredentialStore.runOn_save, saveCredential, works]
  rfl

end

/-- A new user that is saved and then activated is still there after the rollback: the
second undo action puts back the user that the first one removed. -/
theorem rollback_keeps_activated (rt : Runtime Premises) (id : Uuid) (u : User)
    (outages : Outages) (works : outages.userSaves = false) (hid : u.id = some id) :
    ∃ rt₂, (attemptAndRollBack [⟨outages, .saveUser u⟩, ⟨outages, .activateUser id⟩]).runOn rt
        = (.ok (), rt₂)
      ∧ rt₂.world.memory.users.get? id = some u := by
  let first := (UnitOfWork.empty Kinds (UnitOfWork.nextId rt)).addUndo
    (.user id (rt.world.memory.users.get? id))
  obtain ⟨rt₁, hsave, husers⟩ : ∃ rt₁, Virtual.runOn ((Write.saveUser u).run.runOn
        (.empty Kinds (UnitOfWork.nextId rt)))
        ((UnitOfWork.opened rt).withMemory (rt.world.memory.withOutages outages))
      = (.ok (.ok (), first), rt₁)
      ∧ rt₁.world.memory.users = rt.world.memory.users.insert id u :=
    ⟨_, runOn_saveUser _ _ works hid, rfl⟩
  have known : (rt₁.withMemory (rt₁.world.memory.withOutages outages)).world.memory.users.get? id
      = some u := by
    change rt₁.world.memory.users.get? id = some u
    rw [husers, Table.get?_insert_self]
  have hrun := (runOn_attemptAll_cons ⟨outages, .saveUser u⟩ [⟨outages, .activateUser id⟩]
    hsave).trans (runOn_attemptAll_cons ⟨outages, .activateUser id⟩ []
      (runOn_activateUser first _ known))
  obtain ⟨rt₂, hroll, hmemory⟩ := runOn_attemptAndRollBack hrun
  refine ⟨rt₂, hroll, ?_⟩
  rw [hmemory]
  exact Table.get?_insert_self _ _ _

/-- A credential that another one of its token replaced is gone after the rollback. -/
theorem rollback_loses_replaced (rt : Runtime Premises) (kind : CredentialKind) (c : Credential)
    (outages : Outages) (works : (rt.world.memory.withOutages outages).cannotSave kind = false) :
    ∃ rt₂, (attemptAndRollBack [⟨outages, .saveCredential kind c⟩]).runOn rt = (.ok (), rt₂)
      ∧ (rt₂.world.memory.credentials kind).get? c.token = none := by
  have saved := runOn_attemptAll_cons ⟨outages, .saveCredential kind c⟩ []
    (runOn_saveCredential (.empty Kinds (UnitOfWork.nextId rt))
      ((UnitOfWork.opened rt).withMemory (rt.world.memory.withOutages outages)) c works)
  obtain ⟨rt₂, hroll, hmemory⟩ := runOn_attemptAndRollBack saved
  refine ⟨rt₂, hroll, ?_⟩
  have hvalue := valueAt_undo ((rt.world.memory.withOutages outages).keep kind c)
    (.credential kind c.token) (.saved kind c.token)
  rw [Undo.place, if_pos rfl] at hvalue
  rw [hmemory]
  exact Option.map_eq_none_iff.1 hvalue

/-- So a rollback does not always restore the maps. -/
theorem not_always_restored :
    ¬ ∀ attempts rt rt₂, (attemptAndRollBack attempts).runOn rt = (.ok (), rt₂) →
      SameMaps rt₂.world.memory rt.world.memory := by
  intro always
  obtain ⟨rt₂, hroll, hkept⟩ := rollback_keeps_activated (.new .counting (.plain .none))
    ⟨0xada#128⟩ ((User.new "Ada" "ada@yas.org" "#one").kept ⟨0xada#128⟩) .none rfl rfl
  have same := always _ _ rt₂ hroll
  rw [same.1] at hkept
  exact nomatch hkept

end Gatehouse.Memory
