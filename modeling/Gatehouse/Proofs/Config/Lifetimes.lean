/-
  Gatehouse/Proofs/Config/Lifetimes.lean --- lifetimes that are too long for the calendar.

  The check of a configuration wants the lifetimes of tokens to be positive and sets no
  upper bound.  A call that would make a token whose end has no date is given up, so what
  the check accepts may be a service that never issues anything.  Said here is when a call
  is given up, and which lifetimes keep every call from it up to the year 9999.

  Main definitions: `Instant.Usual`, `TokenService.EndsLate`, `TokenService.Steady`.
  Main statements: `AppConfig.lifetimes_given_up_iff`, `AppConfig.not_always_steady`.
-/
import Gatehouse.Proofs.Config.Validation
import Gatehouse.Proofs.Session.Lifetimes

set_option autoImplicit false

namespace Gatehouse

/-! ## Ends without a date -/

namespace Instant

/-- A positive lifetime that begins after 1970 has no end when it would end after the last
date; that it can be held says nothing more. -/
theorem after?_eq_none_iff {t : Instant} {s : Int} (since : 0 ≤ t.nanos) (positive : 0 < s) :
    t.after? s = none ↔ lastSecond < t.seconds + s := by
  have hbegin : 0 ≤ t.seconds := by
    rw [seconds_eq_ediv]
    exact Int.ediv_nonneg since (by decide)
  have hend : (Instant.mk (t.nanos + s * second)).seconds = t.seconds + s := by
    rw [seconds_eq_ediv, seconds_eq_ediv]
    exact Int.add_mul_ediv_right t.nanos s (by decide)
  simp only [after?, isLifetime, hasDate, hend, ite_eq_right_iff, reduceCtorEq, imp_false,
    Bool.and_eq_true, decide_eq_true_eq]
  simp only [firstSecond, lastSecond, maxLifetime]
  omega

/-- The last second of the year 9999. -/
def lastUsual : Int := 253402300799

/-- Whether a point in time lies between 1970 and the end of the year 9999. -/
structure Usual (t : Instant) : Prop where
  since : 0 ≤ t.nanos
  before : t.seconds ≤ lastUsual

/-- The longest lifetime that has an end wherever it begins up to the year 9999. -/
def longestUsual : Int := lastSecond - lastUsual

end Instant

/-! ## Calls that are given up -/

namespace TokenService

variable {D : Denylist} (s : TokenService) (rt : Runtime (Gate D))
  (positive : ∀ kind, 0 < s.ttl kind)

/-- What issuing a pair for a user gives. -/
def issued (user : Uuid) : Except Cut (Except Failure TokenPair) :=
  ((s.issue user : ExceptT Failure (Gate.Run D) TokenPair).run.runOn rt).1

/-- What a refresh with a token gives. -/
def refreshed (token : String) : Except Cut (Except Failure String) :=
  ((s.refresh token : ExceptT Failure (Gate.Run D) String).run.runOn rt).1

/-- Whether a token of a kind that is made at a point in time would end after the last
date. -/
def EndsLate (kind : TokenKind) (t : Instant) : Prop :=
  Instant.lastSecond < t.seconds + s.ttl kind

theorem not_endsLate {kind : TokenKind} {t : Instant} (usual : t.Usual)
    (short : s.ttl kind ≤ Instant.longestUsual) : ¬ s.EndsLate kind t := by
  have hbefore := usual.before
  simp only [EndsLate, Instant.longestUsual] at short ⊢
  omega

include positive

/-- A pair is issued unless one of its tokens would end late, and else the call is given
up. -/
theorem issue_ends (since : 0 ≤ rt.clock.nanos) (user : Uuid) :
    ((∃ kind, s.EndsLate kind rt.clock) ∧ s.issued rt user = .error .overflow)
      ∨ (∀ kind, ¬ s.EndsLate kind rt.clock) ∧ ∃ pair, s.issued rt user = .ok (.ok pair) := by
  have late : ∀ kind, rt.clock.after? (s.ttl kind) = none ↔ s.EndsLate kind rt.clock :=
    fun kind => Instant.after?_eq_none_iff since (positive kind)
  obtain ⟨rt₁, -, ⟨hnone, hrun⟩ | ⟨pair, hrun, haccess, hrefresh, -⟩⟩ :=
    s.issue_cases rt (fun w c => w.signer.sign c) Gate.runOn_sign user
  · rw [issued, hrun]
    refine Or.inl ⟨?_, rfl⟩
    rcases hnone with hnone | hnone
    · exact ⟨.access, (late .access).1 hnone⟩
    · exact ⟨.refresh, (late .refresh).1 hnone⟩
  · rw [issued, hrun]
    refine Or.inr ⟨?_, pair, rfl⟩
    intro kind hlate
    have hnone := (late kind).2 hlate
    cases kind with
    | access => exact Option.isSome_iff_ne_none.1 haccess hnone
    | refresh => exact Option.isSome_iff_ne_none.1 hrefresh hnone

/-- A refresh with an accepted token is given up when the new one would end late, counted
from after the denylist was asked; every other refresh is answered. -/
theorem refresh_ends (since : 0 ≤ rt.clock.nanos) (token : String) :
    ((∃ id, Accepts rt token .refresh id) ∧ s.EndsLate .access (asked rt token).clock
        ∧ s.refreshed rt token = .error .overflow)
      ∨ ¬ ((∃ id, Accepts rt token .refresh id) ∧ s.EndsLate .access (asked rt token).clock)
        ∧ ∃ r, s.refreshed rt token = .ok r := by
  have sinceAsked : 0 ≤ (asked rt token).clock.nanos :=
    Int.le_trans since (asked_ran rt token).clock
  have late : (asked rt token).clock.after? s.accessTtl = none
      ↔ s.EndsLate .access (asked rt token).clock :=
    Instant.after?_eq_none_iff sinceAsked (positive .access)
  rw [refreshed, refresh_eq, Virtual.runOn_attempt_bind]
  obtain ⟨id, accepts, hrun⟩ | ⟨hnone, e, rt₁, -, hrun⟩ := accept_cases rt token .refresh
  · simp only [hrun, Virtual.runOn_attempt_bind, Virtual.runOn_attempt_lift, Virtual.runOn_now]
    obtain ⟨hend, hmake⟩ | ⟨c, hmake, hsome, -⟩ := s.make_cases (asked rt token)
      (fun w c => w.signer.sign c) Gate.runOn_sign .access id (asked rt token).clock
    · rw [hmake]
      exact Or.inl ⟨⟨id, accepts⟩, late.1 hend, rfl⟩
    · rw [hmake]
      refine Or.inr ⟨?_, _, rfl⟩
      rintro ⟨-, hlate⟩
      exact Option.isSome_iff_ne_none.1 hsome (late.2 hlate)
  · rw [hrun]
    refine Or.inr ⟨?_, _, rfl⟩
    rintro ⟨⟨id, accepts⟩, -⟩
    exact hnone id accepts

omit positive in
/-- Whether no call that makes tokens is given up while the clock reads a usual point in
time. -/
def Steady : Prop :=
  ∀ (D : Denylist) (rt : Runtime (Gate D)), rt.clock.Usual →
    (∀ user cut, s.issued rt user ≠ .error cut)
      ∧ ∀ token, (asked rt token).clock.Usual → ∀ cut, s.refreshed rt token ≠ .error cut

/-- A lifetime that is too long is found out in the last second of the year 9999. -/
theorem Steady.short (h : s.Steady) (kind : TokenKind) :
    s.ttl kind ≤ Instant.longestUsual := by
  have usual : (Instant.mk (Instant.lastUsual * Instant.second)).Usual := ⟨by decide, by decide⟩
  have hseconds : (Instant.mk (Instant.lastUsual * Instant.second)).seconds
      = Instant.lastUsual := by decide
  obtain ⟨issues, -⟩ :=
    h .lapsing { Gate.opening with clock := ⟨Instant.lastUsual * Instant.second⟩ } usual
  obtain ⟨-, givenUp⟩ | ⟨notLate, -⟩ := s.issue_ends
    { Gate.opening with clock := ⟨Instant.lastUsual * Instant.second⟩ } positive usual.since ⟨0⟩
  · exact absurd givenUp (issues ⟨0⟩ .overflow)
  · have hend := notLate kind
    rw [EndsLate, hseconds] at hend
    rw [Instant.longestUsual]
    omega

/-- A service is steady exactly when both of its lifetimes are short enough. -/
theorem steady_iff : s.Steady ↔ ∀ kind, s.ttl kind ≤ Instant.longestUsual := by
  refine ⟨fun h => h.short s positive, ?_⟩
  intro short D rt usual
  refine ⟨?_, ?_⟩
  · intro user cut givenUp
    obtain ⟨⟨kind, late⟩, -⟩ | ⟨-, pair, hpair⟩ := s.issue_ends rt positive usual.since user
    · exact s.not_endsLate usual (short kind) late
    · exact nomatch hpair.symm.trans givenUp
  · intro token usual' cut givenUp
    obtain ⟨-, late, -⟩ | ⟨-, r, hr⟩ := s.refresh_ends rt positive usual.since token
    · exact s.not_endsLate usual' (short .access) late
    · exact nomatch hr.symm.trans givenUp

end TokenService

/-! ## Services of accepted configurations -/

namespace AppConfig

/-- The token service of a configuration. -/
def tokenService (c : AppConfig) : TokenService := .ofConfig c.auth.jwt

theorem Accepted.ttl_pos {c : AppConfig} (h : c.Accepted) (kind : TokenKind) :
    0 < c.tokenService.ttl kind := by
  cases kind with
  | access => exact h.access
  | refresh => exact h.refresh

/-- Under an accepted configuration and at every time since 1970, issuing a pair is given
up exactly when a token would end late, and a pair is issued otherwise; a refresh is given
up exactly when its token is accepted and the new one would end late, and is answered
otherwise.  No call from 1970 to the year 9999 is given up exactly when both lifetimes are
at most the seconds from that year to the last date, which the check does not ask for. -/
theorem lifetimes_given_up_iff {c : AppConfig} (accepted : c.validate = .ok ()) :
    (∀ (D : Denylist) (rt : Runtime (Gate D)), 0 ≤ rt.clock.nanos →
      (∀ user,
        (c.tokenService.issued rt user = .error .overflow
            ↔ ∃ kind, c.tokenService.EndsLate kind rt.clock)
          ∧ ((∃ pair, c.tokenService.issued rt user = .ok (.ok pair))
            ↔ ∀ kind, ¬ c.tokenService.EndsLate kind rt.clock))
      ∧ ∀ token,
        (c.tokenService.refreshed rt token = .error .overflow
            ↔ (∃ id, TokenService.Accepts rt token .refresh id)
              ∧ c.tokenService.EndsLate .access (TokenService.asked rt token).clock)
          ∧ ((∃ r, c.tokenService.refreshed rt token = .ok r)
            ↔ ¬ ((∃ id, TokenService.Accepts rt token .refresh id)
              ∧ c.tokenService.EndsLate .access (TokenService.asked rt token).clock)))
    ∧ (c.tokenService.Steady
        ↔ c.auth.jwt.accessTokenExpiry ≤ Instant.longestUsual
          ∧ c.auth.jwt.refreshTokenExpiry ≤ Instant.longestUsual) := by
  have positive := (validate_eq_ok_iff.1 accepted).ttl_pos
  refine ⟨?_, ?_⟩
  · intro D rt since
    refine ⟨?_, ?_⟩
    · intro user
      obtain ⟨⟨kind, late⟩, givenUp⟩ | ⟨notLate, pair, hpair⟩ :=
        c.tokenService.issue_ends rt positive since user
      · rw [givenUp]
        exact ⟨iff_of_true rfl ⟨kind, late⟩, iff_of_false nofun fun notLate => notLate kind late⟩
      · rw [hpair]
        exact ⟨iff_of_false nofun fun ⟨kind, late⟩ => notLate kind late,
          iff_of_true ⟨pair, rfl⟩ notLate⟩
    · intro token
      obtain ⟨accepts, late, givenUp⟩ | ⟨hnot, r, hr⟩ :=
        c.tokenService.refresh_ends rt positive since token
      · rw [givenUp]
        exact ⟨iff_of_true rfl ⟨accepts, late⟩, iff_of_false nofun fun hnot => hnot ⟨accepts, late⟩⟩
      · rw [hr]
        exact ⟨iff_of_false nofun hnot, iff_of_true ⟨r, rfl⟩ hnot⟩
  · rw [TokenService.steady_iff _ positive]
    constructor
    · intro short
      exact ⟨short .access, short .refresh⟩
    · rintro ⟨access, refresh⟩ kind
      cases kind with
      | access => exact access
      | refresh => exact refresh

/-- The state of an empty denylist in March of 2024. -/
def inMarch2024 : Runtime (Gate .lapsing) :=
  { Gate.opening with clock := .ofMillis 1709280000000 }

/-- Under the built-in configuration a pair is issued in March of 2024, and no call is given
up up to the year 9999. -/
theorem steady_default :
    AppConfig.default.validate = .ok ()
      ∧ (∃ pair, AppConfig.default.tokenService.issued inMarch2024 ⟨0⟩ = .ok (.ok pair))
      ∧ AppConfig.default.tokenService.Steady := by
  have accepted : AppConfig.default.validate = .ok () := rfl
  have given := lifetimes_given_up_iff accepted
  have usual : inMarch2024.clock.Usual := ⟨by decide, by decide⟩
  refine ⟨accepted, ?_, given.2.2 ⟨by decide, by decide⟩⟩
  refine ((given.1 .lapsing inMarch2024 usual.since).1 ⟨0⟩).2.2 ?_
  intro kind
  refine TokenService.not_endsLate _ usual ?_
  cases kind with
  | access => decide
  | refresh => decide

/-- The built-in configuration with another access lifetime. -/
def withAccessExpiry (seconds : Int) : AppConfig :=
  { AppConfig.default with
    auth := { AuthConfig.default with
      jwt := { JwtConfig.default with accessTokenExpiry := seconds } } }

/-- With an access lifetime of nine trillion seconds the configuration is accepted, and
issuing a pair in March of 2024 is given up. -/
theorem not_always_steady :
    (withAccessExpiry 9000000000000).validate = .ok ()
      ∧ (withAccessExpiry 9000000000000).tokenService.issued inMarch2024 ⟨0⟩ = .error .overflow
      ∧ ¬ (withAccessExpiry 9000000000000).tokenService.Steady := by
  have givenUp : (withAccessExpiry 9000000000000).tokenService.issued inMarch2024 ⟨0⟩
      = .error .overflow := rfl
  refine ⟨rfl, givenUp, ?_⟩
  intro steady
  obtain ⟨issues, -⟩ := steady .lapsing inMarch2024 ⟨by decide, by decide⟩
  exact issues ⟨0⟩ .overflow givenUp

end AppConfig

end Gatehouse
