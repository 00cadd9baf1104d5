/-
  Gatehouse/Proofs/Config/Validation.lean --- what the check of a configuration accepts.

  The check goes through its conditions in order and ends at the first that fails.  What it
  accepts is said here once, as all the conditions together.

  Main definition: `AppConfig.Accepted`.
  Main statement: `AppConfig.validate_eq_ok_iff`.
-/
import Gatehouse.Config.App

set_option autoImplicit false

namespace Gatehouse.AppConfig

/-- Whether a configuration fulfils all conditions of its check. -/
structure Accepted (c : AppConfig) : Prop where
  secret : c.environment = .production → c.auth.jwt.secret ≠ JwtConfig.defaultSecret
  database : c.environment = .production → c.database.url ≠ DatabaseConfig.default.url
  access : 0 < c.auth.jwt.accessTokenExpiry
  refresh : 0 < c.auth.jwt.refreshTokenExpiry
  activation : isWebUrl c.auth.account.activationUrl = true
  recovery : isWebUrl c.auth.account.passwordRecoveryUrl = true
  relay : c.mailRelay.provider = .http → c.mailRelay.relayUrl ≠ none

/-- A condition of the check, and the rest of it. -/
theorem guard_eq_ok_iff {p : Prop} [Decidable p] {f : ConfigFault}
    {rest : Except ConfigFault Unit} :
    (do
        if p then throw f
        rest) = .ok () ↔ ¬ p ∧ rest = .ok () := by
  by_cases hp : p
  · simp [hp, throw, throwThe, MonadExceptOf.throw, bind, Except.bind]
  · simp [hp]

/-- The last condition of the check, with nothing after it. -/
theorem lastGuard_eq_ok_iff {p : Prop} [Decidable p] {f : ConfigFault} :
    (if p then throw f else pure () : Except ConfigFault Unit) = .ok () ↔ ¬ p := by
  by_cases hp : p
  · simp [hp, throw, throwThe, MonadExceptOf.throw]
  · simp [hp, pure, Except.pure]

theorem checkLink_bind_eq_ok_iff {key url : String} {rest : Except ConfigFault Unit} :
    (checkLink key url >>= fun _ => rest) = .ok () ↔ isWebUrl url = true ∧ rest = .ok () := by
  unfold checkLink
  cases isWebUrl url with
  | false => simp [bind, Except.bind]
  | true => simp [bind, Except.bind]

/-- The check accepts exactly what fulfils all its conditions. -/
theorem validate_eq_ok_iff {c : AppConfig} : c.validate = .ok () ↔ c.Accepted := by
  have inProduction : c.environment.isProduction = true ↔ c.environment = .production := by
    simp [Environment.isProduction]
  unfold validate
  rw [guard_eq_ok_iff, guard_eq_ok_iff, guard_eq_ok_iff, guard_eq_ok_iff,
    checkLink_bind_eq_ok_iff, checkLink_bind_eq_ok_iff, lastGuard_eq_ok_iff]
  simp only [Bool.and_eq_true, inProduction, JwtConfig.isUsingDefaultSecret, beq_iff_eq,
    Int.not_le, not_and]
  constructor
  · rintro ⟨secret, database, access, refresh, activation, recovery, relay⟩
    exact ⟨secret, database, access, refresh, activation, recovery, relay⟩
  · rintro ⟨secret, database, access, refresh, activation, recovery, relay⟩
    exact ⟨secret, database, access, refresh, activation, recovery, relay⟩

end Gatehouse.AppConfig
