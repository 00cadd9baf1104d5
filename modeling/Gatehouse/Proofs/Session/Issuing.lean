/-
  Gatehouse/Proofs/Session/Issuing.lean --- what making tokens does.

  Making a token draws an id for it and signs its claims; it is given up when its end
  is no point in time.  A pair is made of two such tokens with one time of issue.  A
  signer that only computes is all that is asked for here.

  Main definition: `TokenPair.SignedFor`.
  Main statements: `TokenService.make_cases`, `TokenService.runOn_issue`,
  `TokenService.issue_cases`.
-/
import Gatehouse.Proofs.Running
import Gatehouse.Session.Service

set_option autoImplicit false

namespace Gatehouse

/-- The end of a token is all that its claims need. -/
theorem Claims.mint?_isSome (kind : TokenKind) (user : Uuid) (issued : Instant) (ttl : Int)
    (issuer : String) (jti : Uuid) :
    (mint? kind user issued ttl issuer jti).isSome = (issued.after? ttl).isSome := by
  rw [mint?, Option.isSome_map]

/-- Claims speak of the user and the kind that they were made for. -/
theorem Claims.of_mint? {kind : TokenKind} {user : Uuid} {issued : Instant} {ttl : Int}
    {issuer : String} {jti : Uuid} {c : Claims}
    (h : mint? kind user issued ttl issuer jti = some c) :
    c.sub = user.text ∧ c.typ = kind := by
  obtain ⟨expiry, -, rfl⟩ := Option.map_eq_some_iff.1 h
  exact ⟨rfl, rfl⟩

/-- Whether a pair is made of an access token and a refresh token for a user. -/
def TokenPair.SignedFor (pair : TokenPair) (sign : Claims → String) (user : Uuid) : Prop :=
  ∃ a r, pair = { accessToken := sign a, refreshToken := sign r }
    ∧ a.sub = user.text ∧ a.typ = .access ∧ r.sub = user.text ∧ r.typ = .refresh

namespace TokenService

/-- The event that tells of a pair of tokens. -/
def issuedNote (user : Uuid) : LogEvent :=
  { level := .info, source := .tokens, message := "Issued token pair"
    fields := [("user_id", .text user.text)] }

variable {σ : Type} [TokenSigner (Virtual σ)] (s : TokenService) (rt : Runtime σ)

theorem runOn_make (kind : TokenKind) (user : Uuid) (issued : Instant) :
    (s.make kind user issued : ExceptT Failure (Virtual σ) String).run.runOn rt
      = match Claims.mint? kind user issued (s.ttl kind) s.issuer
            (rt.entropy.idAt rt.entropy.drawn) with
        | none => (.error .overflow, rt.drew)
        | some c =>
            (TokenSigner.sign c : ExceptT Failure (Virtual σ) String).run.runOn rt.drew := by
  rw [make, Virtual.runOn_attempt_bind, Virtual.runOn_attempt_lift, Virtual.runOn_freshId]
  dsimp only
  cases Claims.mint? kind user issued (s.ttl kind) s.issuer (rt.entropy.idAt rt.entropy.drawn)
  · rfl
  · rfl

variable (signed : σ → Claims → String)
  (pureSign : ∀ c (rt : Runtime σ), (TokenSigner.sign c :
    ExceptT Failure (Virtual σ) String).run.runOn rt = (.ok (.ok (signed rt.world c)), rt))

include pureSign

/-- A token is made unless it would end at no point in time. -/
theorem make_cases (kind : TokenKind) (user : Uuid) (issued : Instant) :
    (issued.after? (s.ttl kind) = none
        ∧ (s.make kind user issued : ExceptT Failure (Virtual σ) String).run.runOn rt
          = (.error .overflow, rt.drew))
      ∨ ∃ c, (s.make kind user issued : ExceptT Failure (Virtual σ) String).run.runOn rt
            = (.ok (.ok (signed rt.world c)), rt.drew)
          ∧ (issued.after? (s.ttl kind)).isSome ∧ c.sub = user.text ∧ c.typ = kind := by
  rw [runOn_make]
  cases hmint : Claims.mint? kind user issued (s.ttl kind) s.issuer
      (rt.entropy.idAt rt.entropy.drawn) with
  | none => exact Or.inl ⟨Option.map_eq_none_iff.1 hmint, rfl⟩
  | some c =>
    have hend := Claims.mint?_isSome kind user issued (s.ttl kind) s.issuer
      (rt.entropy.idAt rt.entropy.drawn)
    rw [hmint] at hend
    exact Or.inr ⟨c, pureSign c rt.drew, hend.symm, Claims.of_mint? hmint⟩

/-- An issue is given up, silently, when a token would end at no point in time; otherwise
it tells whom its pair is for. -/
theorem runOn_issue (user : Uuid) :
    (∃ rt₁, (rt₁ = rt.drew ∨ rt₁ = rt.drew.drew)
        ∧ (rt.clock.after? s.accessTtl = none ∨ rt.clock.after? s.refreshTtl = none)
        ∧ (s.issue user : ExceptT Failure (Virtual σ) TokenPair).run.runOn rt
          = (.error .overflow, rt₁))
      ∨ ∃ pair, (s.issue user : ExceptT Failure (Virtual σ) TokenPair).run.runOn rt
            = (.ok (.ok pair), rt.drew.drew.logged (issuedNote user))
          ∧ (rt.clock.after? s.accessTtl).isSome ∧ (rt.clock.after? s.refreshTtl).isSome
          ∧ pair.SignedFor (signed rt.world) user := by
  simp only [issue, Virtual.runOn_attempt_bind, Virtual.runOn_attempt_lift, Virtual.runOn_now]
  obtain ⟨hnone, hmake⟩ | ⟨a, hmake, hsome, hsub, htyp⟩ :=
    s.make_cases rt signed pureSign .access user rt.clock
  · simp only [hmake]
    exact Or.inl ⟨rt.drew, Or.inl rfl, Or.inl hnone, rfl⟩
  · simp only [hmake]
    obtain ⟨hnone, hmake'⟩ | ⟨r, hmake', hsome', hsub', htyp'⟩ :=
      s.make_cases rt.drew signed pureSign .refresh user rt.clock
    · simp only [hmake']
      exact Or.inl ⟨rt.drew.drew, Or.inr rfl, Or.inr hnone, rfl⟩
    · simp only [hmake', logInfo, Virtual.runOn_log, Virtual.runOn_attempt_pure]
      exact Or.inr ⟨_, rfl, hsome, hsome', a, r, rfl, hsub, htyp, hsub', htyp'⟩

/-- A pair is issued unless one of its tokens would end at no point in time; the world
is left as it is. -/
theorem issue_cases (user : Uuid) :
    ∃ rt₁, rt.Quiet rt₁
      ∧ (((rt.clock.after? s.accessTtl = none ∨ rt.clock.after? s.refreshTtl = none)
            ∧ (s.issue user : ExceptT Failure (Virtual σ) TokenPair).run.runOn rt
              = (.error .overflow, rt₁))
        ∨ ∃ pair, (s.issue user : ExceptT Failure (Virtual σ) TokenPair).run.runOn rt
              = (.ok (.ok pair), rt₁)
            ∧ (rt.clock.after? s.accessTtl).isSome ∧ (rt.clock.after? s.refreshTtl).isSome
            ∧ pair.SignedFor (signed rt.world) user) := by
  obtain ⟨rt₁, hstate, hnone, hissue⟩ | ⟨pair, hissue, hpair⟩ :=
    s.runOn_issue rt signed pureSign user
  · refine ⟨rt₁, ?_, Or.inl ⟨hnone, hissue⟩⟩
    obtain rfl | rfl := hstate
    · exact ⟨rfl, rfl, rfl, rfl⟩
    · exact ⟨rfl, rfl, rfl, rfl⟩
  · exact ⟨rt.drew.drew.logged (issuedNote user), ⟨rfl, rfl, rfl, rfl⟩,
      Or.inr ⟨pair, hissue, hpair⟩⟩

end TokenService

end Gatehouse
