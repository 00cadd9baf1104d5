/-
  Gatehouse/Proofs/Account/Keeping.lean --- how long a credential is kept.

  A credential stays under its token whatever calls follow, successful or not, until a call
  redeems it; and a token that no credential has stays without one until it is drawn
  again.  What a call does to the stores is said once, for both.

  Main definitions: `Visit.Redeems`, `Visit.Draws`, `Onward`, `Pending`.
  Main statements: `Onward.pending`, `Onward.absent`.
-/
import Gatehouse.Proofs.Account.Integrity

set_option autoImplicit false

namespace Gatehouse

namespace Memory

variable {s : Memory} {kind other : CredentialKind} {token : String} {c d : Credential}

/-- Keeping a credential of an unused token leaves every other one. -/
theorem get?_keep_of_unused (spare : (s.credentials other).get? c.token = none)
    (hd : (s.credentials kind).get? token = some d) :
    ((s.keep other c).credentials kind).get? token = some d := by
  unfold keep
  by_cases same : kind = other
  · subst same
    have hne : token ≠ c.token := by
      rintro rfl
      rw [spare] at hd
      cases hd
    rw [credentials_withCredentials_self, Table.get?_insert_of_ne _ _ hne, hd]
  · rw [credentials_withCredentials_of_ne _ same, hd]

/-- Removing a credential leaves every other one. -/
theorem get?_remove_of_other {removed : String} (distinct : kind = other → token ≠ removed)
    (hd : (s.credentials kind).get? token = some d) :
    ((s.remove other removed).credentials kind).get? token = some d := by
  unfold remove
  by_cases same : kind = other
  · have hne := distinct same
    subst same
    rw [credentials_withCredentials_self, Table.get?_erase, if_neg hne, hd]
  · rw [credentials_withCredentials_of_ne _ same, hd]

end Memory

/-- Whether a call presents a token of a kind in order to redeem it. -/
def AccountCall.Presents (kind : CredentialKind) (token : String) : AccountCall → Prop
  | .activate presented => kind = .activation ∧ presented = token
  | .recoverPassword input => kind = .recovery ∧ input.token = token
  | _ => False

namespace AccountCall.Effect

variable {s : AccountService} {w : Premises} {New : String → Prop} {call : AccountCall}
  {answer : AccountAnswer} {after : Memory} {kind : CredentialKind} {token : String}

/-- What a call makes of the credentials: nothing, or one more, of a new token, or one less,
which was kept under the token that the call presents. -/
theorem credentials_cases (effect : call.Effect s w New answer after) :
    (∀ other, after.credentials other = w.memory.credentials other)
      ∨ (∃ kind c, (w.memory.credentials kind).get? c.token = none ∧ New c.token
          ∧ ∀ other, after.credentials other = (w.memory.keep kind c).credentials other)
      ∨ ∃ kind token c, call.Presents kind token
          ∧ (w.memory.credentials kind).get? token = some c
          ∧ ∀ other, after.credentials other
            = (w.memory.remove kind c.token).credentials other := by
  cases effect with
  | @signedUp input id mailId drawn hash user mail free unused hashed made spare new =>
    refine .inr (.inl ⟨.activation, { token := drawn, userId := id }, spare, new, ?_⟩)
    intro other
    cases other <;> rfl
  | @activated presented activation user _ found known consumed =>
    rcases consumed with rfl | rfl
    · exact .inl (Memory.credentials_keepUser _ _)
    · refine .inr (.inr ⟨.activation, presented, activation, ⟨rfl, rfl⟩, found, ?_⟩)
      intro other
      cases other <;> rfl
  | loggedIn => exact .inl fun other => rfl
  | @recoveryOpened email drawn user id mailId mail found named spare new =>
    refine .inr (.inl ⟨.recovery, { token := drawn, userId := id }, spare, new, ?_⟩)
    exact Memory.credentials_queue _
  | @recovered input recovery user hash fresh _ found known hashed consumed =>
    rcases consumed with rfl | rfl
    · exact .inl (Memory.credentials_keepUser _ _)
    · refine .inr (.inr ⟨.recovery, input.token, recovery, ⟨rfl, rfl⟩, found, ?_⟩)
      intro other
      cases other <;> rfl

/-- A credential stays unless a call redeems it. -/
theorem keeps (effect : call.Effect s w New answer after) (sound : w.memory.Sound)
    {c : Credential} (hc : (w.memory.credentials kind).get? token = some c)
    (other : ¬ call.Presents kind token) : (after.credentials kind).get? token = some c := by
  rcases effect.credentials_cases with same | ⟨k, d, spare, -, same⟩ | ⟨k, presented, d, presents,
    found, same⟩
  · rwa [same]
  · rw [same]
    exact Memory.get?_keep_of_unused spare hc
  · rw [same]
    apply Memory.get?_remove_of_other _ hc
    rw [sound.keyed found]
    rintro rfl rfl
    exact other presents

/-- A token gets a credential only when it is drawn. -/
theorem drawn_of_kept (effect : call.Effect s w New answer after)
    (absent : (w.memory.credentials kind).get? token = none) {c : Credential}
    (hc : (after.credentials kind).get? token = some c) : New token := by
  have hnone : (w.memory.credentials kind).get? token ≠ some c := by
    rw [absent]
    nofun
  rcases effect.credentials_cases with same | ⟨k, d, -, new, same⟩ | ⟨k, presented, d, -, -, same⟩
  · rw [same] at hc
    exact absurd hc hnone
  · rw [same] at hc
    rcases Memory.kept_of_keep hc with hc | ⟨-, rfl⟩
    · exact absurd hc hnone
    · exact new
  · rw [same] at hc
    exact absurd (Memory.kept_of_remove hc) hnone

end AccountCall.Effect

/-! ## Calls one after another -/

namespace Visit

variable (s : AccountService) (rt : Runtime Premises)

/-- Whether a call draws a token. -/
def Draws (token : String) : Visit → Prop
  | .account t => Drawn (t.call.run s).run (t.enter rt) token
  | .session _ _ _ => False

/-- Whether a call redeems a token of a kind: it presents it and succeeds. -/
def Redeems (kind : CredentialKind) (token : String) : Visit → Prop
  | .account t => t.call.Presents kind token ∧ ∃ answer, (t.take s rt).1 = .ok (.ok answer)
  | .session _ _ _ => False

variable {s rt}

/-- A call leaves the credentials as they are, or is a workflow that has succeeded. -/
theorem take_cases (v : Visit) (fresh : v.Fresh s rt) :
    (∀ kind, (v.take s rt).world.memory.credentials kind = rt.world.memory.credentials kind)
      ∨ ∃ t answer, v = .account t ∧ (t.take s rt).1 = .ok (.ok answer)
        ∧ t.call.Effect s (t.enter rt).world (Drawn (t.call.run s).run (t.enter rt)) answer
            (t.take s rt).2.world.memory := by
  cases v with
  | account t =>
    have hends : Ends (t.call.Effect s (t.enter rt).world
        (Drawn (t.call.run s).run (t.enter rt))) (t.enter rt).world.memory (t.take s rt) :=
      t.call.ends s fresh
    have hentered : ∀ kind, (t.enter rt).world.memory.credentials kind
        = rt.world.memory.credentials kind := by
      intro kind
      cases kind
      · rfl
      · rfl
    change (∀ kind, (t.take s rt).2.world.memory.credentials kind
      = rt.world.memory.credentials kind) ∨ _
    cases hresult : t.take s rt with
    | mk r rt₁ =>
      rw [hresult] at hends
      cases hends with
      | givenUp same =>
        left
        intro kind
        rw [← hentered kind, ← same]
      | failed same =>
        left
        intro kind
        rw [← hentered kind, ← same]
      | @succeeded answer _ effect =>
        right
        refine ⟨t, answer, rfl, ?_, ?_⟩
        · rw [hresult]
        · rwa [hresult]
  | session denylist clock call =>
    left
    intro kind
    have hspared : ((Visit.session denylist clock call).take s rt).world.memory
        = rt.world.memory := call.run_spares s { rt with clock }
    rw [hspared]

variable {kind : CredentialKind} {token : String}

/-- A credential stays unless a call redeems it. -/
theorem keeps_credential (v : Visit) (fresh : v.Fresh s rt) (sound : rt.world.memory.Sound)
    (other : ¬ v.Redeems s rt kind token) {c : Credential}
    (hc : (rt.world.memory.credentials kind).get? token = some c) :
    ((v.take s rt).world.memory.credentials kind).get? token = some c := by
  rcases v.take_cases fresh with same | ⟨t, answer, rfl, hanswer, effect⟩
  · rwa [same]
  · have hentered : (t.enter rt).world.memory.Sound := ⟨sound.users, sound.keyed, sound.owned⟩
    have hother : ¬ t.call.Presents kind token := fun presents =>
      other ⟨presents, answer, hanswer⟩
    apply effect.keeps hentered _ hother
    cases kind
    · exact hc
    · exact hc

/-- A token gets a credential only when it is drawn. -/
theorem keeps_absent (v : Visit) (fresh : v.Fresh s rt) (undrawn : ¬ v.Draws s rt token)
    (absent : (rt.world.memory.credentials kind).get? token = none) :
    ((v.take s rt).world.memory.credentials kind).get? token = none := by
  rcases v.take_cases fresh with same | ⟨t, answer, rfl, -, effect⟩
  · rwa [same]
  · rw [Option.eq_none_iff_forall_ne_some]
    intro c hc
    have habsent : ((t.enter rt).world.memory.credentials kind).get? token = none := by
      cases kind
      · exact absent
      · exact absent
    exact undrawn (effect.drawn_of_kept habsent hc)

/-- Whether nothing that a call draws is in use, and it does not redeem a token. -/
def LeavesToken (s : AccountService) (kind : CredentialKind) (token : String)
    (rt : Runtime Premises) (v : Visit) : Prop :=
  v.Fresh s rt ∧ ¬ v.Redeems s rt kind token

/-- Whether nothing that a call draws is in use, and it does not draw a token. -/
def AvoidsToken (s : AccountService) (token : String) (rt : Runtime Premises) (v : Visit) : Prop :=
  v.Fresh s rt ∧ ¬ v.Draws s rt token

end Visit

/-- The states that calls reach from a state, each of which is allowed in the state that it
is made in. -/
inductive Onward (s : AccountService) (May : Runtime Premises → Visit → Prop)
    (start : Runtime Premises) : Runtime Premises → Prop
  | here : Onward s May start start
  | visit {now : Runtime Premises} (earlier : Onward s May start now) (v : Visit)
      (may : May now v) : Onward s May start (v.take s now)

/-- Whether a credential can be redeemed: it is kept, in stores that are in order. -/
structure Pending (kind : CredentialKind) (c : Credential) (s : Memory) : Prop where
  sound : s.Sound
  kept : (s.credentials kind).get? c.token = some c

namespace Onward

variable {s : AccountService} {start now : Runtime Premises} {kind : CredentialKind}

/-- A credential can be redeemed until it is redeemed. -/
theorem pending {c : Credential} (h : Onward s (Visit.LeavesToken s kind c.token) start now)
    (pending : Pending kind c start.world.memory) : Pending kind c now.world.memory := by
  induction h with
  | here => exact pending
  | visit earlier v may ih =>
    have hsound := (v.sound_lasts ih.sound may.1).1
    exact ⟨hsound, v.keeps_credential may.1 ih.sound may.2 ih.kept⟩

/-- A token without a credential stays without one until it is drawn. -/
theorem absent {token : String} (h : Onward s (Visit.AvoidsToken s token) start now)
    (absent : (start.world.memory.credentials kind).get? token = none) :
    (now.world.memory.credentials kind).get? token = none := by
  induction h with
  | here => exact absent
  | visit earlier v may ih => exact v.keeps_absent may.1 may.2 ih

end Onward

end Gatehouse
