/-
  Gatehouse/Proofs/Account/Redeeming.lean --- two calls that use up one credential.

  An activation and the recovery of a password use up the credential that they present.
  Two such calls may present the same one at the same time: each makes its own requests
  in order, and the requests of both are made of the same stores in any order.

  A call looks the credential up before it opens its unit of work and deletes it last,
  and to delete a credential that is not there is no failure.  So two calls that both look
  it up before either deletes it can both succeed.  A call that looks it up later than
  that is refused.

  Main definitions: `Redemption`, `Caller`, `Mixed`, `SingleUse`.
  Main statements: `Mixed.refused_when_late`, `Mixed.not_single_use`.
-/
import Gatehouse.Proofs.Store.Answering
import Gatehouse.Proofs.Work.Settling

set_option autoImplicit false

namespace Gatehouse

open Dialogue UnitOfWork

/-! ## Calls that use up a credential -/

/-- The failure of a call that presents an unknown credential. -/
def CredentialKind.unknown : CredentialKind → Failure
  | .activation => .auth .activationNotFound
  | .recovery => .auth .recoveryNotFound

/-- A call that uses up a credential. -/
inductive Redemption where
  | activate (token : String)
  | recover (input : RecoverInput)
  deriving DecidableEq, Repr, Inhabited

namespace Redemption

/-- What the credential is for. -/
def kind : Redemption → CredentialKind
  | .activate _ => .activation
  | .recover _ => .recovery

/-- The token that is presented. -/
def token : Redemption → String
  | .activate token => token
  | .recover input => input.token

/-- The workflow of a call. -/
def run : Redemption → ExceptT Failure (Dialogue Memory.Kinds) Unit
  | .activate token => AccountService.activate token
  | .recover input => AccountService.recoverPassword input

/-- The lookup of a credential, to be told with its answer. -/
def lookup (kind : CredentialKind) (token : String)
    (found : Except Failure (Option Credential)) : Exchange Memory.Kinds :=
  ⟨.ask (.credential kind token), found⟩

/-- The deletion of a credential in a unit of work, which it leaves as another one. -/
def deletion (kind : CredentialKind) (token : String) (u v : UnitOfWork Memory.Kinds) :
    Exchange Memory.Kinds :=
  ⟨.write (.deleteCredential kind token) u, (.ok (), v)⟩

/-- A call looks its credential up first, and is refused if it is not there. -/
theorem looks_up (r : Redemption) {said : List (Exchange Memory.Kinds)} {a : Except Failure Unit}
    (h : r.run.run.Runs said a) :
    ∃ found rest, said = lookup r.kind r.token found :: rest
      ∧ (found = .ok none → a = .error r.kind.unknown) := by
  cases r with
  | activate token =>
    obtain ⟨found, rest, rfl, hrest⟩ := h
    refine ⟨found, rest, rfl, ?_⟩
    rintro rfl
    exact hrest.2.symm
  | recover input =>
    obtain ⟨found, rest, rfl, hrest⟩ := h
    refine ⟨found, rest, rfl, ?_⟩
    rintro rfl
    exact hrest.2.symm

/-- Whether a credential is deleted in some exchanges, and none is put into the stores. -/
def UsesUp (kind : CredentialKind) (token : String) (said : List (Exchange Memory.Kinds)) : Prop :=
  (∃ u v, deletion kind token u v ∈ said) ∧ ∀ x ∈ said, ¬ x.1.Puts

/-- A write and then the deletion of a credential, if both succeed, use it up. -/
theorem step_usesUp {w : StoreWrite} {kind : CredentialKind} {token : String}
    (hw : ∀ u, ¬ (Request.write (K := Memory.Kinds) w u).Puts) (u : UnitOfWork Memory.Kinds) :
    Ensures ((Dialogue.write w >>= fun _ =>
        Dialogue.write (.deleteCredential kind token)).runOn u) []
      fun made r => (∃ v, r = (.ok (), v)) → UsesUp kind token made := by
  rw [ensures_step_bind, ensures_write]
  rintro ⟨e | a, v⟩
  · rintro ⟨_, h⟩
    cases h
  · refine ensures_write.2 ?_
    rintro ⟨e | ⟨⟩, v'⟩
    · rintro ⟨_, h⟩
      cases h
    · intro _
      refine ⟨⟨v, v', List.mem_append_right _ (List.mem_singleton_self _)⟩, ?_⟩
      intro x hx
      rcases List.mem_append.1 hx with hx | hx
      · rw [List.mem_singleton.1 hx]
        exact hw u
      · rw [List.mem_singleton.1 hx]
        exact id

/-- Such a step in a unit of work of its own, if it succeeds, uses the credential up. -/
theorem perform_usesUp {w : StoreWrite} {kind : CredentialKind} {token : String}
    {event : LogEvent} {before : List (Exchange Memory.Kinds)}
    (hw : ∀ u, ¬ (Request.write (K := Memory.Kinds) w u).Puts)
    (hbefore : ∀ x ∈ before, ¬ x.1.Puts) :
    (UnitOfWork.perform (Dialogue.write w >>= fun _ =>
        Dialogue.write (.deleteCredential kind token)) >>= fun _ =>
      ExceptT.lift (log event) : ExceptT Failure (Dialogue Memory.Kinds) Unit).run.Ensures before
        fun said r => r = .ok () → UsesUp kind token said := by
  rw [ensures_attempt_bind, ensures_iff]
  intro said r h
  obtain ⟨id, made, outcome, v, ending, rfl, hmade, hsettled⟩ := runs_perform h
  cases hsettled with
  | uncommitted _ each failed => nofun
  | rolledBack e discarded => nofun
  | @committed a outcomes each fine =>
    rintro ⟨⟩ -
    have husesUp : UsesUp kind token made :=
      ensures_iff.1 (step_usesUp hw _) made _ hmade ⟨v, rfl⟩
    obtain ⟨⟨u, u', hdeletion⟩, hmade⟩ := husesUp
    refine ⟨⟨u, u', by simp [hdeletion]⟩, ?_⟩
    intro x hx
    simp only [List.mem_append, opening, List.mem_cons, List.not_mem_nil, or_false] at hx
    obtain (hx | ((rfl | rfl) | hx) | hx | rfl) | rfl := hx
    · exact hbefore x hx
    · exact fun h => h
    · exact fun h => h
    · exact hmade x hx
    · obtain ⟨h, r, rfl⟩ | ⟨a, r, rfl⟩ := mem_answered hx
      · exact fun h => h
      · exact fun h => h
    · exact fun h => h
    · exact fun h => h

/-- A call that succeeds has found a credential and used it up. -/
theorem uses_up (r : Redemption) {said : List (Exchange Memory.Kinds)}
    (h : r.run.run.Runs said (.ok ())) :
    ∃ c, lookup r.kind r.token (.ok (some c)) ∈ said ∧ UsesUp r.kind c.token said := by
  cases r with
  | activate token =>
    obtain ⟨found, rest, rfl, hrest⟩ := h
    rcases found with e | _ | c
    · exact nomatch hrest.2
    · exact nomatch hrest.2
    · refine ⟨c, List.mem_cons_self, ?_⟩
      have hbefore : ∀ x ∈ [lookup .activation token (.ok (some c))], ¬ x.1.Puts := by
        intro x hx
        rw [List.mem_singleton.1 hx]
        exact fun h => h
      exact ensures_iff.1 (perform_usesUp (w := .activateUser c.userId) (fun _ h => h) hbefore)
        rest _ hrest rfl
  | recover input =>
    obtain ⟨found, rest, rfl, hrest⟩ := h
    rcases found with e | _ | c
    · exact nomatch hrest.2
    · exact nomatch hrest.2
    obtain ⟨known, rest, rfl, hrest⟩ := hrest
    rcases known with e | _ | user
    · exact nomatch hrest.2
    · exact nomatch hrest.2
    obtain ⟨right, rest, rfl, hrest⟩ := hrest
    rcases right with e | _ | _
    · exact nomatch hrest.2
    · exact nomatch hrest.2
    obtain ⟨hashed, rest, rfl, hrest⟩ := hrest
    rcases hashed with e | hash
    · exact nomatch hrest.2
    refine ⟨c, List.mem_cons_self, ?_⟩
    have hbefore : ∀ x ∈ [lookup .recovery input.token (.ok (some c)),
        ⟨.ask (.userById c.userId), .ok (some user)⟩,
        ⟨.ask (.verify input.oldPassword user.passwordHash), .ok true⟩,
        ⟨.ask (.hash input.newPassword), .ok hash⟩], ¬ x.1.Puts := by
      intro x hx
      simp only [List.mem_cons, List.not_mem_nil, or_false] at hx
      obtain rfl | rfl | rfl | rfl := hx <;> exact fun h => h
    exact ensures_iff.1 (perform_usesUp (w := .saveUser (user.withPasswordHash hash))
      (fun _ h => h) hbefore) rest _ hrest rfl

end Redemption

/-! ## Two calls at once -/

/-- Whose request something is. -/
inductive Caller where
  | first
  | second
  deriving DecidableEq, Repr, Inhabited

/-- The one who is not this one. -/
def Caller.other : Caller → Caller
  | .first => .second
  | .second => .first

theorem Caller.eq_of_ne_other {c d : Caller} (h : d ≠ c.other) : d = c := by
  cases c <;> cases d <;> first | rfl | exact absurd rfl h

/-- What a caller says in some steps. -/
def saidBy (c : Caller) (steps : List (Caller × Exchange Memory.Kinds)) :
    List (Exchange Memory.Kinds) :=
  steps.filterMap fun step => if step.1 = c then some step.2 else none

theorem mem_saidBy {c : Caller} {steps : List (Caller × Exchange Memory.Kinds)}
    {x : Exchange Memory.Kinds} : x ∈ saidBy c steps ↔ (c, x) ∈ steps := by
  rw [saidBy, List.mem_filterMap]
  constructor
  · rintro ⟨⟨d, y⟩, hy, hsome⟩
    split at hsome
    · rename_i same
      obtain rfl : d = c := same
      obtain rfl := Option.some.inj hsome
      exact hy
    · exact nomatch hsome
  · intro h
    exact ⟨(c, x), h, if_pos rfl⟩

theorem saidBy_append (c : Caller) (first rest : List (Caller × Exchange Memory.Kinds)) :
    saidBy c (first ++ rest) = saidBy c first ++ saidBy c rest :=
  List.filterMap_append

theorem saidBy_other_cons (c : Caller) (x : Exchange Memory.Kinds)
    (rest : List (Caller × Exchange Memory.Kinds)) :
    saidBy c.other ((c, x) :: rest) = saidBy c.other rest := by
  cases c <;> rfl

/-- What a caller says first comes after requests of the other one only. -/
theorem saidBy_eq_cons {c : Caller} {steps : List (Caller × Exchange Memory.Kinds)}
    {x : Exchange Memory.Kinds} {rest : List (Exchange Memory.Kinds)}
    (h : saidBy c.other steps = x :: rest) :
    ∃ mid late, steps = mid ++ (c.other, x) :: late ∧ ∀ y ∈ mid, y.1 = c := by
  obtain ⟨mid, ⟨d, y⟩, late, rfl, hmid, hy, -⟩ := List.filterMap_eq_cons_iff.1 h
  split at hy
  · rename_i same
    obtain rfl : d = c.other := same
    obtain rfl := Option.some.inj hy
    refine ⟨mid, late, rfl, ?_⟩
    intro z hz
    refine Caller.eq_of_ne_other ?_
    intro hother
    have hnone := hmid z hz
    rw [if_pos hother] at hnone
    exact nomatch hnone
  · exact nomatch hy

/-- Whether two calls may come to these answers when their requests are made of the same
stores in the order of some steps. -/
structure Mixed (calls : Caller → Redemption) (s : Memory)
    (steps : List (Caller × Exchange Memory.Kinds)) (answer : Caller → Except Failure Unit) :
    Prop where
  runs : ∀ c, (calls c).run.run.Runs (saidBy c steps) (answer c)
  plays : ∃ s', s.Plays (steps.map Prod.snd) s'

/-- Whether at most one of two calls with one credential of a kind succeeds, in whatever
order their requests are made. -/
def SingleUse (kind : CredentialKind) : Prop :=
  ∀ (calls : Caller → Redemption) (token : String) (s : Memory)
    (steps : List (Caller × Exchange Memory.Kinds)) (answer : Caller → Except Failure Unit),
    s.Keyed → (∀ c, (calls c).kind = kind ∧ (calls c).token = token) →
    Mixed calls s steps answer → ¬ (answer .first = .ok () ∧ answer .second = .ok ())

namespace Mixed

open Redemption

variable {calls : Caller → Redemption} {s : Memory}
  {steps : List (Caller × Exchange Memory.Kinds)} {answer : Caller → Except Failure Unit}
  {kind : CredentialKind} {token : String} {c : Caller}

/-- A lookup is answered by stores in which credentials are kept under their own tokens. -/
theorem answered_lookup (h : Mixed calls s steps answer) (keyed : s.Keyed)
    {found : Except Failure (Option Credential)} (hfound : (c, lookup kind token found) ∈ steps) :
    ∃ t : Memory, t.Keyed ∧ found = .ok (t.findCredential kind token) := by
  obtain ⟨before, after, rfl⟩ := List.append_of_mem hfound
  obtain ⟨s', hplays⟩ := h.plays
  rw [List.map_append, Memory.plays_append] at hplays
  obtain ⟨t, hbefore, _ | ⟨hlookup, -⟩⟩ := hplays
  exact ⟨t, hbefore.keyed keyed, hlookup.credential.1⟩

/-- A lookup after a deletion, when no credential is put into the stores between the two,
finds nothing. -/
theorem answered_late {before mid late : List (Caller × Exchange Memory.Kinds)} {d : Caller}
    {u v : UnitOfWork Memory.Kinds} {found : Except Failure (Option Credential)}
    (h : Mixed calls s (before ++ (c, deletion kind token u v)
      :: (mid ++ (d, lookup kind token found) :: late)) answer)
    (quiet : ∀ y ∈ mid, ¬ y.2.1.Puts) : found = .ok none := by
  obtain ⟨s', hplays⟩ := h.plays
  rw [List.map_append, Memory.plays_append] at hplays
  obtain ⟨_, -, _ | ⟨hdeleted, hrest⟩⟩ := hplays
  rw [List.map_append, Memory.plays_append] at hrest
  obtain ⟨t, hbetween, _ | ⟨hlate, -⟩⟩ := hrest
  have habsent : (t.credentials kind).get? token = none := by
    refine hbetween.absent ?_ hdeleted.deleted
    intro x hx
    obtain ⟨y, hy, rfl⟩ := List.mem_map.1 hx
    exact quiet y hy
  rw [hlate.credential.1, Memory.findCredential, habsent]

/-- Of two calls with the same credential, when one succeeds, the other one has found the
credential before the first deleted it, or it is refused. -/
theorem refused_when_late (h : Mixed calls s steps answer) (keyed : s.Keyed)
    (same : ∀ c, (calls c).kind = kind ∧ (calls c).token = token) (won : answer c = .ok ()) :
    ∃ before u v after, steps = before ++ (c, deletion kind token u v) :: after
      ∧ ((∃ found, lookup kind token (.ok (some found)) ∈ saidBy c.other before)
        ∨ answer c.other = .error kind.unknown) := by
  obtain ⟨hkind, htoken⟩ := same c
  obtain ⟨hkind', htoken'⟩ := same c.other
  -- the one who succeeds deletes the token that both present
  have hwinner := h.runs c
  rw [won] at hwinner
  obtain ⟨c₀, hfound, ⟨u, v, hdeletion⟩, hquiet⟩ := (calls c).uses_up hwinner
  rw [hkind, htoken] at hfound
  obtain ⟨t, hkeyed, hc₀⟩ := h.answered_lookup keyed (mem_saidBy.1 hfound)
  have hsame : c₀.token = token := hkeyed kind token c₀ (Except.ok.inj hc₀).symm
  rw [hkind, hsame] at hdeletion
  obtain ⟨before, after, rfl⟩ := List.append_of_mem (mem_saidBy.1 hdeletion)
  refine ⟨before, u, v, after, rfl, ?_⟩
  -- the other one starts with a lookup, either before that or after it
  obtain ⟨found, rest, hother, hrefused⟩ := (calls c.other).looks_up (h.runs c.other)
  rw [hkind', htoken'] at hother
  rw [hkind'] at hrefused
  have hlookup : (c.other, lookup kind token found)
      ∈ before ++ (c, deletion kind token u v) :: after := by
    rw [← mem_saidBy, hother]
    exact List.mem_cons_self
  obtain ⟨t', -, hanswer⟩ := h.answered_lookup keyed hlookup
  rw [saidBy_append, saidBy_other_cons] at hother
  cases hearly : saidBy c.other before with
  | cons x early =>
    rw [hearly] at hother
    obtain rfl : x = lookup kind token found := (List.cons.inj hother).1
    rw [hanswer]
    cases hknown : t'.findCredential kind token with
    | none => exact Or.inr (hrefused (by rw [hanswer, hknown]))
    | some d => exact Or.inl ⟨d, List.mem_cons_self⟩
  | nil =>
    rw [hearly, List.nil_append] at hother
    obtain ⟨mid, late, rfl, hmid⟩ := saidBy_eq_cons hother
    refine Or.inr (hrefused (h.answered_late ?_))
    rintro ⟨d, y⟩ hy
    obtain rfl : d = c := hmid _ hy
    refine hquiet y (mem_saidBy.2 ?_)
    exact List.mem_append_right _ (List.mem_cons_of_mem _ (List.mem_append_left _ hy))

/-! ## Calls in turn and at once -/

/-- A user, and a credential of that user. -/
def ada : User := (User.new "Ada" "ada@yas.org" "#one").kept ⟨1#128⟩

def pending : Credential := { token := "t", userId := ⟨1#128⟩ }

/-- The stores that keep both. -/
def stores (kind : CredentialKind) : Memory :=
  (Memory.empty.keepUser ⟨1#128⟩ ada).keep kind pending

theorem stores_keyed (kind : CredentialKind) : (stores kind).Keyed := by
  intro other token c hc
  rcases Memory.kept_of_keep hc with hc | ⟨rfl, htoken⟩
  · cases other with
    | activation => exact nomatch hc
    | recovery => exact nomatch hc
  · exact htoken

/-- What is said in an activation that finds the user so, and deletes the credential or
finds it deleted. -/
def activation (user : User) (deleted : Option Memory.Undo) : List (Exchange Memory.Kinds) :=
  let opened := empty Memory.Kinds ⟨0#128⟩
  let activated := opened.addUndo (.user ⟨1#128⟩ (some user))
  [lookup .activation "t" (.ok (some pending)),
    ⟨.freshId, ⟨0#128⟩⟩, ⟨.log openedNote, ()⟩,
    ⟨.write (.activateUser ⟨1#128⟩) opened, (.ok (), activated)⟩,
    deletion .activation "t" activated (activated.register deleted),
    ⟨.log committedNote, ()⟩,
    ⟨.log { level := .info, source := .accounts, message := "User activated"
            fields := [("user_id", .text (Uuid.text ⟨1#128⟩))] }, ()⟩]

/-- What is said in a recovery that finds the password of old and sets another one; the
user is as it is when the password is set. -/
def recovery (password : String) (user : User) (deleted : Option Memory.Undo) :
    List (Exchange Memory.Kinds) :=
  let opened := empty Memory.Kinds ⟨0#128⟩
  let saved := opened.addUndo (.user ⟨1#128⟩ (some user))
  let changed := ada.withPasswordHash ("#" ++ password)
  [lookup .recovery "t" (.ok (some pending)),
    ⟨.ask (.userById ⟨1#128⟩), .ok (some ada)⟩,
    ⟨.ask (.verify "one" "#one"), .ok true⟩,
    ⟨.ask (.hash password), .ok ("#" ++ password)⟩,
    ⟨.freshId, ⟨0#128⟩⟩, ⟨.log openedNote, ()⟩,
    ⟨.write (.saveUser changed) opened, (.ok changed, saved)⟩,
    deletion .recovery "t" saved (saved.register deleted),
    ⟨.log committedNote, ()⟩,
    ⟨.log { level := .info, source := .accounts, message := "Password recovered"
            fields := [("user_id", .text (Uuid.text ⟨1#128⟩))] }, ()⟩]

/-- The steps of two calls that both come so far before either goes on. -/
def raced (n : Nat) (a b : List (Exchange Memory.Kinds)) : List (Caller × Exchange Memory.Kinds) :=
  (a.take n).map (Prod.mk .first) ++ (b.take n).map (Prod.mk .second)
    ++ (a.drop n).map (Prod.mk .first) ++ (b.drop n).map (Prod.mk .second)

/-- A request is made with a hasher that writes a mark before the password. -/
theorem plays_next {s : Memory} {x : Exchange Memory.Kinds} {rest : List (Exchange Memory.Kinds)}
    {rt : Runtime Premises}
    (h : x.1.make.runOn (.new .counting { Premises.plain .none with memory := s }) = (.ok x.2, rt))
    (later : ∃ s', rt.world.memory.Plays rest s') : ∃ s', s.Plays (x :: rest) s' := by
  obtain ⟨s', later⟩ := later
  exact ⟨s', .cons ⟨_, rt, rfl, rfl, h⟩ later⟩

theorem both_activate :
    Mixed (fun _ => .activate "t") (stores .activation)
      (raced 1 (activation ada (some (.deleted .activation pending)))
        (activation { ada with isActive := true } none))
      (fun _ => .ok ()) where
  runs := by
    rintro (_ | _)
    · repeat refine ⟨_, _, rfl, ?_⟩
      exact ⟨rfl, rfl⟩
    · repeat refine ⟨_, _, rfl, ?_⟩
      exact ⟨rfl, rfl⟩
  plays := by
    repeat refine plays_next rfl ?_
    exact ⟨_, .nil _⟩

theorem both_recover :
    Mixed (fun
        | .first => .recover { token := "t", oldPassword := "one", newPassword := "two" }
        | .second => .recover { token := "t", oldPassword := "one", newPassword := "six" })
      (stores .recovery)
      (raced 4 (recovery "two" ada (some (.deleted .recovery pending)))
        (recovery "six" (ada.withPasswordHash "#two") none))
      (fun _ => .ok ()) where
  runs := by
    rintro (_ | _)
    · repeat refine ⟨_, _, rfl, ?_⟩
      exact ⟨rfl, rfl⟩
    · repeat refine ⟨_, _, rfl, ?_⟩
      exact ⟨rfl, rfl⟩
  plays := by
    repeat refine plays_next rfl ?_
    exact ⟨_, .nil _⟩

/-- A credential of neither kind is for one use: two calls can both succeed with it. -/
theorem not_single_use : ¬ SingleUse .activation ∧ ¬ SingleUse .recovery := by
  constructor
  · intro once
    refine once _ "t" _ _ _ (stores_keyed _) ?_ both_activate ⟨rfl, rfl⟩
    rintro (_ | _)
    · exact ⟨rfl, rfl⟩
    · exact ⟨rfl, rfl⟩
  · intro once
    refine once _ "t" _ _ _ (stores_keyed _) ?_ both_recover ⟨rfl, rfl⟩
    rintro (_ | _)
    · exact ⟨rfl, rfl⟩
    · exact ⟨rfl, rfl⟩

/-- A second activation after the first one is refused. -/
theorem refused_when_late_in_turn :
    let steps := raced 0 (activation ada (some (.deleted .activation pending)))
      [lookup .activation "t" (.ok none)]
    let answer : Caller → Except Failure Unit := fun
      | .first => .ok ()
      | .second => .error (.auth .activationNotFound)
    Mixed (fun _ => .activate "t") (stores .activation) steps answer
      ∧ ∃ before u v after, steps = before ++ (.first, deletion .activation "t" u v) :: after
        ∧ ((∃ found, lookup .activation "t" (.ok (some found)) ∈ saidBy .second before)
          ∨ answer .second = .error (.auth .activationNotFound)) := by
  intro steps answer
  have mixed : Mixed (fun _ => .activate "t") (stores .activation) steps answer := by
    constructor
    · rintro (_ | _)
      · repeat refine ⟨_, _, rfl, ?_⟩
        exact ⟨rfl, rfl⟩
      · exact ⟨_, _, rfl, rfl, rfl⟩
    · repeat refine plays_next rfl ?_
      exact ⟨_, .nil _⟩
  exact ⟨mixed, refused_when_late (c := .first) mixed (stores_keyed _) (fun _ => ⟨rfl, rfl⟩) rfl⟩

end Mixed

end Gatehouse
