/-
  Gatehouse/Config/Auth.lean --- token signing and the links of account mails.

  Main definitions: `JwtConfig`, `AccountConfig`, `AuthConfig`.
-/
import Gatehouse.Config.Environment

set_option autoImplicit false

namespace Gatehouse

/-- How session tokens are signed; lifetimes are in seconds. -/
structure JwtConfig where
  secret : String
  accessTokenExpiry : Int
  refreshTokenExpiry : Int
  issuer : String
  deriving DecidableEq, Repr, Inhabited

namespace JwtConfig

/-- The built-in secret, which must not reach production. -/
def defaultSecret : String := "your-secret-key-change-in-production"

/-- The setting with a given secret: an hour of access, a week of refresh. -/
def new (secret : String) : JwtConfig :=
  { secret, accessTokenExpiry := 3600, refreshTokenExpiry := 604800, issuer := "yas" }

/-- The built-in setting. -/
def default : JwtConfig := new defaultSecret

/-- A lifetime as it is kept, in 64 bits. -/
def lifetime (seconds : Int) : Int := seconds.bmod 0x10000000000000000

/-- The setting with another access lifetime. -/
def withAccessMinutes (c : JwtConfig) (minutes : Int) : JwtConfig :=
  { c with accessTokenExpiry := lifetime (minutes * 60) }

/-- The setting with another refresh lifetime. -/
def withRefreshDays (c : JwtConfig) (days : Int) : JwtConfig :=
  { c with refreshTokenExpiry := lifetime (days * 86400) }

def isUsingDefaultSecret (c : JwtConfig) : Bool := c.secret == defaultSecret

def toJson (c : JwtConfig) : Json :=
  .obj [("secret", .str c.secret), ("access_token_expiry", .int c.accessTokenExpiry),
    ("refresh_token_expiry", .int c.refreshTokenExpiry), ("issuer", .str c.issuer)]

def ofJson? (v : Json) : Option JwtConfig :=
  match v.record? ["secret", "access_token_expiry", "refresh_token_expiry", "issuer"] with
  | some [secret, access, refresh, issuer] => do
      let secret ← secret.required Json.str?
      let accessTokenExpiry ← access.required Json.int64?
      let refreshTokenExpiry ← refresh.required Json.int64?
      let issuer ← issuer.required Json.str?
      some { secret, accessTokenExpiry, refreshTokenExpiry, issuer }
  | _ => none

end JwtConfig

/-- The bases of the links in account mails. -/
structure AccountConfig where
  activationUrl : String
  passwordRecoveryUrl : String
  deriving DecidableEq, Repr, Inhabited

namespace AccountConfig

/-- The built-in setting. -/
def default : AccountConfig :=
  { activationUrl := "http://localhost:8080/activate"
    passwordRecoveryUrl := "http://localhost:8080/recover-password" }

def toJson (c : AccountConfig) : Json :=
  .obj [("activation_url", .str c.activationUrl),
    ("password_recovery_url", .str c.passwordRecoveryUrl)]

def ofJson? (v : Json) : Option AccountConfig :=
  match v.record? ["activation_url", "password_recovery_url"] with
  | some [activation, recovery] => do
      let activationUrl ← activation.required Json.str?
      let passwordRecoveryUrl ← recovery.required Json.str?
      some { activationUrl, passwordRecoveryUrl }
  | _ => none

end AccountConfig

/-- Signing and links together. -/
structure AuthConfig where
  jwt : JwtConfig
  account : AccountConfig
  deriving DecidableEq, Repr, Inhabited

namespace AuthConfig

/-- The built-in setting. -/
def default : AuthConfig := { jwt := .default, account := .default }

/-- The setting that the variables give. -/
def ofVariables (vars : Variables) : AuthConfig :=
  let jwt := JwtConfig.default
  let account := AccountConfig.default
  let lifetime (name : String) (fallback : Int) : Int :=
    ((vars.get? name).bind Numeral.readInt64?).getD fallback
  { jwt :=
      { secret := vars.text "JWT_SECRET" jwt.secret
        accessTokenExpiry := lifetime "JWT_ACCESS_TOKEN_EXPIRY" jwt.accessTokenExpiry
        refreshTokenExpiry := lifetime "JWT_REFRESH_TOKEN_EXPIRY" jwt.refreshTokenExpiry
        issuer := vars.text "JWT_ISSUER" jwt.issuer }
    account :=
      { activationUrl := vars.text "ACTIVATION_URL" account.activationUrl
        passwordRecoveryUrl := vars.text "PASSWORD_RECOVERY_URL" account.passwordRecoveryUrl } }

def toJson (c : AuthConfig) : Json :=
  .obj [("jwt", c.jwt.toJson), ("account", c.account.toJson)]

def ofJson? (v : Json) : Option AuthConfig :=
  match v.record? ["jwt", "account"] with
  | some [jwt, account] => do
      let jwt ← jwt.required JwtConfig.ofJson?
      let account ← account.withDefault .default AccountConfig.ofJson?
      some { jwt, account }
  | _ => none

end AuthConfig

end Gatehouse
