/-
  Gatehouse/Proofs/Session/Sparing.lean --- calls that leave the stores alone.

  Logging out, renewing and authorizing are about sessions only.  Beside the stores in
  memory there is a denylist, which may do and fail as it likes as long as it is not one
  of the stores; then none of these calls changes what the stores keep.

  Main definitions: `Spares`, `SessionDenylist`, `SessionCall`.
  Main statement: `SessionCall.run_spares`.
-/
import Gatehouse.Proofs.Account.Premises

set_option autoImplicit false

namespace Gatehouse

/-! ## Computations that spare the stores -/

/-- Whether a computation leaves the stores as they are. -/
def Spares {α : Type} (x : Premises.Run α) : Prop :=
  ∀ rt, (x.runOn rt).2.world.memory = rt.world.memory

namespace Spares

variable {α β : Type}

theorem bind {x : Premises.Run α} {f : α → Premises.Run β} (h : Spares x)
    (next : ∀ a, Spares (f a)) : Spares (x >>= f) := by
  intro rt
  have hfirst := h rt
  rw [Virtual.runOn_bind]
  rcases hrun : x.runOn rt with ⟨c | a, rt₁⟩
  · rw [hrun] at hfirst
    exact hfirst
  · rw [hrun] at hfirst
    exact (next a rt₁).trans hfirst

theorem attempt_bind {x : ExceptT Failure Premises.Run α}
    {f : α → ExceptT Failure Premises.Run β} (h : Spares x.run) (next : ∀ a, Spares (f a).run) :
    Spares (x >>= f).run := by
  rw [ExceptT.run_bind]
  refine h.bind ?_
  rintro (e | a)
  · exact fun _ => rfl
  · exact next a

theorem lift {x : Premises.Run α} (h : Spares x) :
    Spares (ExceptT.lift x : ExceptT Failure Premises.Run α).run := by
  rw [ExceptT.run_lift, ← bind_pure_comp]
  exact h.bind fun _ _ => rfl

end Spares

/-- An observation goes to the observations or to the log. -/
theorem observe_spares (o : Observation) : Spares (observe o : Premises.Run Unit) := by
  rintro ⟨elapsed, deadline, stop, clock, _ | _, events, observed, entropy, world⟩
  · rfl
  · rfl

theorem verify_spares (token : String) :
    Spares (TokenSigner.verify token : ExceptT Failure Premises.Run Claims).run := by
  have hverify : (TokenSigner.verify token : ExceptT Failure Premises.Run Claims)
      = ExceptT.lift Virtual.world >>= fun w => w.signer.verify token := rfl
  rw [hverify]
  refine (Spares.lift fun _ => rfl).attempt_bind ?_
  intro w rt
  rw [JwtSigner.verify, ExceptT.run_mk]
  cases w.signer.verify? token with
  | some claims => rfl
  | none => rfl

namespace TokenService

theorem make_spares (s : TokenService) (kind : TokenKind) (user : Uuid) (issued : Instant) :
    Spares (s.make kind user issued : ExceptT Failure Premises.Run String).run := by
  refine (Spares.lift fun _ => rfl).attempt_bind ?_
  intro jti rt
  cases hmint : Claims.mint? kind user issued (s.ttl kind) s.issuer jti with
  | none => rfl
  | some claims => rfl

theorem verifyLive_spares (token : String) (kind : TokenKind) :
    Spares (verifyLive token kind : ExceptT Failure Premises.Run Claims).run := by
  refine (verify_spares token).attempt_bind ?_
  intro claims
  split
  · exact fun _ => rfl
  · refine (Spares.lift fun _ => rfl).attempt_bind ?_
    intro t
    split
    · exact fun _ => rfl
    · exact fun _ => rfl

theorem subject_spares (claims : Claims) :
    Spares (subject claims : ExceptT Failure Premises.Run Uuid).run := by
  intro rt
  rw [subject]
  cases claims.userId? with
  | some id => rfl
  | none => rfl

end TokenService

/-! ## Beside a denylist -/

/-- A denylist that is not among the stores. -/
class SessionDenylist extends RevocationStore Premises.Run where
  put_spares : ∀ token ttl, Spares (put token ttl).run
  denies_spares : ∀ token, Spares (denies token).run

section

variable [d : SessionDenylist]

namespace TokenService

theorem ensureNotRevoked_spares (token : String) :
    Spares (ensureNotRevoked token : ExceptT Failure Premises.Run Unit).run := by
  refine (d.denies_spares token).attempt_bind ?_
  rintro (_ | _)
  · exact fun _ => rfl
  · exact fun _ => rfl

theorem revoke_spares (token : String) (claims : Claims) :
    Spares (revoke token claims : ExceptT Failure Premises.Run Unit).run := by
  refine (Spares.lift fun _ => rfl).attempt_bind ?_
  intro t
  dsimp only
  split
  · exact fun _ => rfl
  · refine (d.put_spares _ _).attempt_bind ?_
    exact fun _ _ => rfl

theorem invalidate_spares (token : String) :
    Spares (invalidate token : ExceptT Failure Premises.Run Unit).run :=
  (verify_spares token).attempt_bind fun claims => revoke_spares token claims

theorem invalidateRefresh_spares (token : String) :
    Spares (invalidateRefresh token : ExceptT Failure Premises.Run Unit).run := by
  refine (verify_spares token).attempt_bind ?_
  intro claims
  split
  · exact fun _ => rfl
  · exact revoke_spares token claims

end TokenService

end

/-- A call that is about sessions only. -/
inductive SessionCall where
  | logout (input : LogoutInput)
  | refresh (token : String)
  | authorize (token : String)
  deriving DecidableEq, Repr, Inhabited

section

variable [SessionDenylist]

/-- The workflow of a call; what it gives is dropped. -/
def SessionCall.run (s : AccountService) : SessionCall → ExceptT Failure Premises.Run Unit
  | .logout input => AccountService.logout input
  | .refresh token => do
      let _ ← s.refresh token
      pure ()
  | .authorize token => do
      let _ ← (AccountService.authorize token : ExceptT Failure Premises.Run Uuid)
      pure ()

/-- A call about sessions leaves the stores as they are. -/
theorem SessionCall.run_spares (s : AccountService) (call : SessionCall) :
    Spares (call.run s).run := by
  cases call with
  | logout input =>
    refine (TokenService.invalidateRefresh_spares input.refreshToken).attempt_bind ?_
    intro _
    cases input.accessToken with
    | none => exact fun _ => rfl
    | some access =>
      refine (Spares.lift (TokenService.invalidate_spares access)).attempt_bind ?_
      rintro (e | _)
      · exact .lift (observe_spares _)
      · exact fun _ => rfl
  | refresh token =>
    have hrefresh : Spares (s.refresh token : ExceptT Failure Premises.Run String).run := by
      refine (TokenService.verifyLive_spares token .refresh).attempt_bind ?_
      intro claims
      refine (TokenService.ensureNotRevoked_spares token).attempt_bind ?_
      intro _
      refine (TokenService.subject_spares claims).attempt_bind ?_
      intro user
      refine (Spares.lift fun _ => rfl).attempt_bind ?_
      intro t
      exact s.tokens.make_spares .access user t
    exact hrefresh.attempt_bind fun _ _ => rfl
  | authorize token =>
    have hauthorize : Spares
        (AccountService.authorize token : ExceptT Failure Premises.Run Uuid).run := by
      refine (TokenService.verifyLive_spares token .access).attempt_bind ?_
      intro claims
      refine (TokenService.ensureNotRevoked_spares token).attempt_bind ?_
      intro _
      exact TokenService.subject_spares claims
    exact hauthorize.attempt_bind fun _ _ => rfl

end

end Gatehouse
