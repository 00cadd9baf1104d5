/-
  Gatehouse/Proofs/Session/Checking.lean --- what checking a token does.

  The signer is a part of the world and only computes; a refusal leaves a line in the log.
  A token passes for its claims when it is verified, of the wanted kind and not expired, and
  every other token is refused in the same way.

  Main definition: `JwtSigner.Passes`.
  Main statements: `TokenService.runOn_verify_cases`, `TokenService.runOn_verifyLive_cases`.
-/
import Gatehouse.Proofs.Running
import Gatehouse.Session.Service

set_option autoImplicit false

namespace Gatehouse

/-- Whether a token of a kind is verified at a point in time and has not expired. -/
structure JwtSigner.Passes (s : JwtSigner) (t : Instant) (token : String) (kind : TokenKind)
    (c : Claims) : Prop where
  verified : s.verify? token = some c
  typ : c.typ = kind
  unexpired : t.seconds < c.exp

theorem JwtSigner.Passes.unique {s : JwtSigner} {t : Instant} {token : String} {kind : TokenKind}
    {c d : Claims} (hc : s.Passes t token kind c) (hd : s.Passes t token kind d) : c = d :=
  Option.some.inj (hc.verified.symm.trans hd.verified)

namespace TokenService

variable {σ : Type} [TokenSigner (Virtual σ)] (rt : Runtime σ) (signer : σ → JwtSigner)
  (token : String)
  (verifies : (TokenSigner.verify token : ExceptT Failure (Virtual σ) Claims)
    = ExceptT.lift Virtual.world >>= fun w => (signer w).verify token)

include verifies

/-- The signer gives the claims of a token, or the token is refused. -/
theorem runOn_verify_cases :
    (∃ c, (signer rt.world).verify? token = some c
        ∧ (TokenSigner.verify token : ExceptT Failure (Virtual σ) Claims).run.runOn rt
          = (.ok (.ok c), rt))
      ∨ (signer rt.world).verify? token = none
        ∧ ∃ e, (TokenSigner.verify token : ExceptT Failure (Virtual σ) Claims).run.runOn rt
          = (.ok (.error (.token .invalid)), rt.logged e) := by
  rw [verifies, Virtual.runOn_attempt_bind, Virtual.runOn_attempt_lift, Virtual.runOn_world]
  dsimp only
  rw [JwtSigner.verify, ExceptT.run_mk]
  cases (signer rt.world).verify? token with
  | some c => exact Or.inl ⟨c, rfl, rfl⟩
  | none => exact Or.inr ⟨rfl, _, rfl⟩

/-- A token of the kind that passes gives its claims; any other is refused. -/
theorem runOn_verifyLive_cases (kind : TokenKind) :
    (∃ c, (signer rt.world).Passes rt.clock token kind c
        ∧ (verifyLive token kind : ExceptT Failure (Virtual σ) Claims).run.runOn rt
          = (.ok (.ok c), rt))
      ∨ (∀ c, ¬ (signer rt.world).Passes rt.clock token kind c) ∧ ∃ rt₁, rt.Quiet rt₁
        ∧ (verifyLive token kind : ExceptT Failure (Virtual σ) Claims).run.runOn rt
          = (.ok (.error (.token .invalid)), rt₁) := by
  have still : rt.Quiet rt := ⟨rfl, rfl, rfl, rfl⟩
  rw [verifyLive, Virtual.runOn_attempt_bind]
  obtain ⟨c, hsome, hrun⟩ | ⟨hnone, e, hrun⟩ := runOn_verify_cases rt signer token verifies
  · have same : ∀ {d}, (signer rt.world).Passes rt.clock token kind d → d = c := by
      intro d h
      exact Option.some.inj (h.verified.symm.trans hsome)
    rw [hrun]
    dsimp only
    by_cases htyp : c.typ = kind
    · rw [if_neg (Decidable.not_not.2 htyp), Virtual.runOn_attempt_bind,
        Virtual.runOn_attempt_lift, Virtual.runOn_now]
      dsimp only
      by_cases hexp : rt.clock.seconds < c.exp
      · rw [Claims.isExpiredAt, decide_eq_false (Int.not_le.2 hexp)]
        exact Or.inl ⟨c, ⟨hsome, htyp, hexp⟩, rfl⟩
      · rw [Claims.isExpiredAt, decide_eq_true (Int.not_lt.1 hexp)]
        refine Or.inr ⟨?_, rt, still, rfl⟩
        intro d h
        obtain rfl := same h
        exact hexp h.unexpired
    · rw [if_pos htyp]
      refine Or.inr ⟨?_, rt, still, rfl⟩
      intro d h
      obtain rfl := same h
      exact htyp h.typ
  · rw [hrun]
    refine Or.inr ⟨?_, rt.logged e, ⟨rfl, rfl, rfl, rfl⟩, rfl⟩
    intro d h
    exact nomatch hnone.symm.trans h.verified

end TokenService

end Gatehouse
