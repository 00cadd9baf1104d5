/-
  Gatehouse/Proofs/Session/LoggingOut.lean --- what a logout does about its two tokens.

  The refresh token alone decides what a logout answers.  When it cannot be revoked, nothing
  is denied, and the access token is not looked at.  Otherwise the access token is revoked too
  if it can be, whichever kind it is of, and if it cannot, that is reported and does no harm.
  Each token is denied for the seconds that it has left itself; time may pass while the store
  is told of the first.

  Main definitions: `DenyStore.Harmless`, `Desk.Revokes`, `Desk.Unrevoked`, `Desk.AccessEnds`.
  Main statements: `Desk.invalidate_ends`, `Desk.invalidateRefresh_ends`, `Desk.logout_ends`.
-/
import Gatehouse.Account.Service
import Gatehouse.Proofs.Session.Revoking

set_option autoImplicit false

namespace Gatehouse

/-- Whether a denial that fails leaves the store as it is. -/
def DenyStore.Harmless (S : DenyStore) : Prop :=
  ∀ s t token ttl e s', S.put s t token ttl = (.error e, s') → s' = s

namespace Desk

variable {S : DenyStore}

/-! ## Tokens that can be revoked, and others -/

section

variable (w : Desk S.recorded) (t : Instant) (admits : TokenKind → Prop) (token : String)

/-- Whether a token of an admitted kind is revoked at a point in time: it is verified, it has
not expired, and its denial takes effect. -/
structure Revokes (c : Claims) : Prop where
  verified : w.signer.verify? token = some c
  kind : admits c.typ
  live : t.seconds < c.exp
  denied : answerTo w (c.denial token t) = .ok ()

/-- The ways in which a token is not revoked, each with its failure. -/
inductive Unrevoked : Failure → Prop
  | forged (unverified : w.signer.verify? token = none) : Unrevoked (.token .invalid)
  | misplaced {c : Claims} (verified : w.signer.verify? token = some c) (kind : ¬ admits c.typ) :
      Unrevoked (.token .invalid)
  | expired {c : Claims} (verified : w.signer.verify? token = some c) (kind : admits c.typ)
      (ended : c.exp ≤ t.seconds) : Unrevoked (.token (.negativeTtl (t.seconds - c.exp)))
  | undenied {c : Claims} {e : Failure} (verified : w.signer.verify? token = some c)
      (kind : admits c.typ) (live : t.seconds < c.exp)
      (failed : answerTo w (c.denial token t) = .error e) : Unrevoked e

end

section

variable {w : Desk S.recorded} {t : Instant} {admits : TokenKind → Prop} {token : String}
  {c d : Claims} {e : Failure}

theorem Revokes.unique (hc : Revokes w t admits token c) (hd : Revokes w t admits token d) :
    c = d :=
  Option.some.inj (hc.verified.symm.trans hd.verified)

/-- No token is both. -/
theorem Unrevoked.not_revokes (h : Unrevoked w t admits token e) :
    ¬ Revokes w t admits token c := by
  intro revokes
  have same : ∀ {d}, w.signer.verify? token = some d → d = c := fun hd =>
    Option.some.inj (hd.symm.trans revokes.verified)
  cases h with
  | forged unverified => exact nomatch unverified.symm.trans revokes.verified
  | misplaced verified kind =>
    obtain rfl := same verified
    exact kind revokes.kind
  | expired verified kind ended =>
    obtain rfl := same verified
    exact Int.not_lt.2 ended revokes.live
  | undenied verified kind live failed =>
    obtain rfl := same verified
    exact nomatch failed.symm.trans revokes.denied

end

/-! ## One revocation -/

/-- Whether nothing took effect between two states and nothing was reported. -/
structure Unharmed (rt rt₁ : Runtime (Desk S.recorded)) : Prop where
  denials : denials rt₁.world = denials rt.world
  kept : S.Harmless → kept rt₁.world = kept rt.world
  observer : rt₁.observer = rt.observer
  observed : rt₁.observed = rt.observed

namespace Unharmed

variable {rt rt₁ rt₂ : Runtime (Desk S.recorded)}

theorem quiet (h : rt.Quiet rt₁) : Unharmed rt rt₁ where
  denials := congrArg Desk.denials h.world
  kept _ := congrArg Desk.kept h.world
  observer := h.observer
  observed := h.observed

/-- A denial that failed. -/
theorem failed {d : Denial} {e : Failure} (h : answerTo rt.world d = .error e)
    (quiet : (afterTelling rt d).Quiet rt₁) : Unharmed rt rt₁ where
  denials := (congrArg Desk.denials quiet.world).trans (denials_telling_error h)
  kept harmless := by
    rw [quiet.world]
    exact harmless _ _ _ _ _ _ (Prod.ext h rfl)
  observer := quiet.observer
  observed := quiet.observed

end Unharmed

/-- How the revocation of a token ends: its denial takes effect, or it fails and nothing
does. -/
inductive RevocationEnds (rt : Runtime (Desk S.recorded)) (admits : TokenKind → Prop)
    (token : String) : Except Cut (Except Failure Unit) × Runtime (Desk S.recorded) → Prop
  | revoked {c : Claims} {rt₁ : Runtime (Desk S.recorded)}
      (revokes : Revokes rt.world rt.clock admits token c)
      (quiet : (afterTelling rt (c.denial token rt.clock)).Quiet rt₁) :
      RevocationEnds rt admits token (.ok (.ok ()), rt₁)
  | failed {e : Failure} {rt₁ : Runtime (Desk S.recorded)}
      (unrevoked : Unrevoked rt.world rt.clock admits token e) (unharmed : Unharmed rt rt₁) :
      RevocationEnds rt admits token (.ok (.error e), rt₁)

variable (rt : Runtime (Desk S.recorded)) (token : String)

theorem revoke_ends {admits : TokenKind → Prop} {c : Claims}
    (verified : rt.world.signer.verify? token = some c) (kind : admits c.typ) :
    RevocationEnds rt admits token (revoked rt token c) := by
  obtain ⟨hover, hrun⟩ | ⟨hlive, rt₁, quiet, hrun⟩ := runOn_revoke_cases rt token c
  · rw [hrun]
    exact .failed (.expired verified kind hover) (.quiet ⟨rfl, rfl, rfl, rfl⟩)
  · rw [hrun]
    cases hanswer : answerTo rt.world (c.denial token rt.clock) with
    | error e => exact .failed (.undenied verified kind hlive hanswer) (.failed hanswer quiet)
    | ok a => exact .revoked ⟨verified, kind, hlive, hanswer⟩ quiet

/-- A token of either kind is revoked. -/
theorem invalidate_ends :
    RevocationEnds rt (fun _ => True) token
      ((TokenService.invalidate token : ExceptT Failure (Run S.recorded) Unit).run.runOn rt) := by
  rw [TokenService.invalidate, Virtual.runOn_attempt_bind]
  obtain ⟨c, hsome, hrun⟩ | ⟨hnone, e, hrun⟩ :=
    TokenService.runOn_verify_cases rt Desk.signer token rfl
  · rw [hrun]
    exact revoke_ends rt token hsome trivial
  · rw [hrun]
    exact .failed (.forged hnone) (.quiet ⟨rfl, rfl, rfl, rfl⟩)

/-- What revoking a refresh token gives. -/
def refreshRevoked : Except Cut (Except Failure Unit) × Runtime (Desk S.recorded) :=
  (TokenService.invalidateRefresh token : ExceptT Failure (Run S.recorded) Unit).run.runOn rt

/-- A refresh token is revoked, an access token is refused. -/
theorem invalidateRefresh_ends :
    RevocationEnds rt (· = .refresh) token (refreshRevoked rt token) := by
  rw [refreshRevoked, TokenService.invalidateRefresh, Virtual.runOn_attempt_bind]
  obtain ⟨c, hsome, hrun⟩ | ⟨hnone, e, hrun⟩ :=
    TokenService.runOn_verify_cases rt Desk.signer token rfl
  · rw [hrun]
    dsimp only
    by_cases htyp : c.typ = .refresh
    · rw [if_neg (Decidable.not_not.2 htyp)]
      exact revoke_ends rt token hsome htyp
    · rw [if_pos htyp]
      exact .failed (.misplaced hsome htyp) (.quiet ⟨rfl, rfl, rfl, rfl⟩)
  · rw [hrun]
    exact .failed (.forged hnone) (.quiet ⟨rfl, rfl, rfl, rfl⟩)

/-! ## Both revocations -/

/-- The warning about an access token that is not revoked. -/
def leftover (e : Failure) : Observation where
  isError := false
  event := "access token invalidation failed"
  failure := e
  fields := [("error_code", e.code)]

/-- What becomes of the access token of a logout at a point in time: the denials that take
effect, and what is reported. -/
inductive AccessEnds (w : Desk S.recorded) (t : Instant) :
    Option String → List Denial → List Observation → Prop
  | absent : AccessEnds w t none [] []
  | revoked {token : String} {c : Claims} (revokes : Revokes w t (fun _ => True) token c) :
      AccessEnds w t (some token) [c.denial token t] []
  | tolerated {token : String} {e : Failure} (never : ∀ c, ¬ Revokes w t (fun _ => True) token c)
      (unrevoked : Unrevoked w t (fun _ => True) token e) :
      AccessEnds w t (some token) [] [leftover e]

/-- What a logout gives. -/
def loggedOut (input : LogoutInput) :
    Except Cut (Except Failure Unit) × Runtime (Desk S.recorded) :=
  (AccountService.logout input : ExceptT Failure (Run S.recorded) Unit).run.runOn rt

/-- A logout answers as the revocation of its refresh token does: it fails with that and
nothing takes effect, or both tokens are dealt with one after the other. -/
theorem logout_cases (records : rt.observer = .record) (input : LogoutInput) :
    (loggedOut rt input).1 = (refreshRevoked rt input.refreshToken).1
      ∧ ((∃ e rt₁, Unrevoked rt.world rt.clock (· = .refresh) input.refreshToken e
          ∧ Unharmed rt rt₁ ∧ loggedOut rt input = (.ok (.error e), rt₁))
        ∨ ∃ c ds os rt₁, Revokes rt.world rt.clock (· = .refresh) input.refreshToken c
          ∧ AccessEnds (afterTelling rt (c.denial input.refreshToken rt.clock)).world
            (afterTelling rt (c.denial input.refreshToken rt.clock)).clock input.accessToken ds os
          ∧ denials rt₁.world = denials rt.world ++ c.denial input.refreshToken rt.clock :: ds
          ∧ rt₁.observed = rt.observed ++ os
          ∧ loggedOut rt input = (.ok (.ok ()), rt₁)) := by
  rw [loggedOut, AccountService.logout, Virtual.runOn_attempt_bind]
  have first := invalidateRefresh_ends rt input.refreshToken
  rw [← refreshRevoked]
  generalize refreshRevoked rt input.refreshToken = result at first ⊢
  cases first with
  | @failed e rt₁ unrevoked unharmed => exact ⟨rfl, Or.inl ⟨e, rt₁, unrevoked, unharmed, rfl⟩⟩
  | @revoked c rt₁ revokes quiet =>
    have hdenials : denials rt₁.world
        = denials rt.world ++ [c.denial input.refreshToken rt.clock] :=
      (congrArg Desk.denials quiet.world).trans (denials_telling_ok revokes.denied)
    have hobserved : rt₁.observed = rt.observed := quiet.observed
    have dealt : ∀ {access ds os}, AccessEnds rt₁.world rt₁.clock access ds os →
        AccessEnds (afterTelling rt (c.denial input.refreshToken rt.clock)).world
          (afterTelling rt (c.denial input.refreshToken rt.clock)).clock access ds os := by
      intro access ds os h
      rwa [quiet.world, quiet.clock] at h
    cases input.accessToken with
    | none =>
      exact ⟨rfl, Or.inr ⟨c, [], [], rt₁, revokes, dealt .absent, hdenials,
        by simp [hobserved], rfl⟩⟩
    | some access =>
      have second := invalidate_ends rt₁ access
      simp only [Virtual.runOn_attempt_bind, Virtual.runOn_attempt_lift]
      generalize Virtual.runOn (TokenService.invalidate access).run rt₁ = result at second ⊢
      cases second with
      | @failed e rt₂ unrevoked unharmed =>
        have hrecords : rt₂.observer = .record :=
          unharmed.observer.trans (quiet.observer.trans records)
        simp only [Virtual.runOn_attempt_lift, observeWarning]
        rw [Virtual.runOn_observe rt₂ _ hrecords]
        refine ⟨rfl, Or.inr ⟨c, [], [leftover e], _, revokes,
          dealt (.tolerated (fun _ => unrevoked.not_revokes) unrevoked), ?_, ?_, rfl⟩⟩
        · exact unharmed.denials.trans hdenials
        · dsimp only
          rw [unharmed.observed, hobserved]
          rfl
      | @revoked d rt₂ revokes₂ quiet₂ =>
        refine ⟨rfl, Or.inr ⟨c, _, [], rt₂, revokes, dealt (.revoked revokes₂), ?_, ?_, rfl⟩⟩
        · rw [quiet₂.world]
          refine (denials_telling_ok revokes₂.denied).trans ?_
          rw [hdenials, List.append_assoc]
          rfl
        · rw [List.append_nil]
          exact quiet₂.observed.trans hobserved

/-- The refresh token decides alone what a logout answers: it succeeds exactly when that token
is verified, a refresh token, not expired, and its denial takes effect.  On a failure nothing
was denied and nothing is reported; if a denial that fails does no harm, the store is what it
was.  On a success the refresh token was denied for the seconds that it had left, and the
access token, if there is one, was denied too for the seconds that it had left, or it could
not be revoked and one warning tells why. -/
theorem logout_ends (records : rt.observer = .record) (input : LogoutInput) :
    (∀ access, (loggedOut rt { input with accessToken := access }).1 = (loggedOut rt input).1)
      ∧ ((loggedOut rt input).1 = .ok (.ok ())
        ↔ ∃ c, Revokes rt.world rt.clock (· = .refresh) input.refreshToken c)
      ∧ ((loggedOut rt input).1 ≠ .ok (.ok ()) → ∃ e,
        Unrevoked rt.world rt.clock (· = .refresh) input.refreshToken e
          ∧ (loggedOut rt input).1 = .ok (.error e)
          ∧ (S.Harmless → kept (loggedOut rt input).2.world = kept rt.world)
          ∧ denials (loggedOut rt input).2.world = denials rt.world
          ∧ (loggedOut rt input).2.observed = rt.observed)
      ∧ ∀ c, Revokes rt.world rt.clock (· = .refresh) input.refreshToken c →
        ∃ ds os, AccessEnds (afterTelling rt (c.denial input.refreshToken rt.clock)).world
            (afterTelling rt (c.denial input.refreshToken rt.clock)).clock input.accessToken ds os
          ∧ denials (loggedOut rt input).2.world
            = denials rt.world ++ c.denial input.refreshToken rt.clock :: ds
          ∧ (loggedOut rt input).2.observed = rt.observed ++ os := by
  refine ⟨fun access => ?_, ?_⟩
  · rw [(logout_cases rt records { input with accessToken := access }).1,
      (logout_cases rt records input).1]
  obtain ⟨e, rt₁, unrevoked, unharmed, hrun⟩ | ⟨c, ds, os, rt₁, revokes, access, hdenials,
    hobserved, hrun⟩ := (logout_cases rt records input).2
  · have never : ∀ c, ¬ Revokes rt.world rt.clock (· = .refresh) input.refreshToken c :=
      fun _ => unrevoked.not_revokes
    rw [hrun]
    refine ⟨⟨nofun, fun ⟨c, revokes⟩ => absurd revokes (never c)⟩, fun _ => ?_,
      fun c revokes => absurd revokes (never c)⟩
    exact ⟨e, unrevoked, rfl, unharmed.kept, unharmed.denials, unharmed.observed⟩
  · rw [hrun]
    refine ⟨⟨fun _ => ⟨c, revokes⟩, fun _ => rfl⟩, fun failed => absurd rfl failed,
      fun d revokes' => ?_⟩
    obtain rfl := revokes.unique revokes'
    exact ⟨ds, os, access, hdenials, hobserved⟩

/-- A store that takes one denial and fails for the others, with a second for each call. -/
def full : DenyStore where
  State := Bool
  ask _ _ _ := .ok false
  put taken _ _ _ := if taken then (.error (.internal "full"), taken) else (.ok (), true)
  pace _ := 1000000000

/-- When the store takes one denial only, a logout denies the refresh token, warns about the
access token and succeeds. -/
theorem logout_ends_tolerating :
    let access : Claims := { outlasting with exp := 1709280900, typ := .access }
    let refresh : Claims := { outlasting with exp := 1709366400 }
    let rt : Runtime (Desk full.recorded) := recordedAt false (.ofMillis 1709280000500)
    let input : LogoutInput :=
      { accessToken := some (signerOfDefault.sign access),
        refreshToken := signerOfDefault.sign refresh }
    rt.observer = .record
      ∧ (loggedOut rt input).1 = .ok (.ok ())
      ∧ denials (loggedOut rt input).2.world
        = [⟨input.refreshToken, .ofMillis 1709280000500, .ofSeconds 86400⟩]
      ∧ (loggedOut rt input).2.observed = [leftover (.internal "full")] := by
  intro access refresh rt input
  have accepted : signerOfDefault.verify? (signerOfDefault.sign access) = some access :=
    JwtSigner.verify?_sign ⟨by decide, by decide⟩ rfl (by decide)
  have revokes : Revokes rt.world rt.clock (· = .refresh) input.refreshToken refresh :=
    ⟨JwtSigner.verify?_sign ⟨by decide, by decide⟩ rfl (by decide), rfl, by decide, rfl⟩
  obtain ⟨-, hok, -, hdenied⟩ := logout_ends rt rfl input
  obtain ⟨ds, os, ends, hdenials, hobserved⟩ := hdenied refresh revokes
  refine ⟨rfl, hok.2 ⟨refresh, revokes⟩, ?_⟩
  rw [hdenials, hobserved]
  have hdenial : refresh.denial input.refreshToken rt.clock
      = ⟨input.refreshToken, .ofMillis 1709280000500, .ofSeconds 86400⟩ := rfl
  rw [hdenial]
  generalize hslot : input.accessToken = slot at ends
  -- The store is full, so the denial of the access token is the step that fails.
  cases ends with
  | absent => exact nomatch hslot
  | revoked second => exact nomatch second.denied
  | tolerated never unrevoked =>
    obtain rfl := Option.some.inj hslot
    cases unrevoked with
    | forged unverified => exact nomatch unverified.symm.trans accepted
    | misplaced verified kind => exact absurd trivial kind
    | expired verified kind ended =>
      obtain rfl := Option.some.inj (accepted.symm.trans verified)
      exact absurd ended (by decide)
    | undenied verified kind live failed =>
      obtain rfl : Failure.internal "full" = _ := Except.error.inj failed
      exact ⟨rfl, rfl⟩

end Desk

end Gatehouse
