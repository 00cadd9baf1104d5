/-
  Gatehouse/Config/App.lean --- the whole configuration and its check.

  The check refuses what must never reach production and what could not work;
  it reports the first problem it finds.

  Main definitions: `AppConfig`, `AppConfig.ofVariables`, `AppConfig.validate`.
-/
import Gatehouse.Config.Auth
import Gatehouse.Config.Mailing
import Gatehouse.Config.Stores

set_option autoImplicit false

namespace Gatehouse

/-- Why a configuration is refused. -/
inductive ConfigFault where
  | missing (key : String)
  | invalid (key problem : String)
  | defaultSecret
  deriving DecidableEq, Repr, Inhabited

namespace ConfigFault

/-- The name of the kind of a fault. -/
def name : ConfigFault → String
  | .missing _ => "Missing"
  | .invalid _ _ => "Invalid"
  | .defaultSecret => "DefaultSecret"

/-- The wording of a fault. -/
def message : ConfigFault → String
  | .missing key => "Missing required configuration: " ++ key
  | .invalid key problem => "Invalid configuration value for " ++ key ++ ": " ++ problem
  | .defaultSecret => "JWT_SECRET must be changed from the default value in production"

end ConfigFault

/-- Whether a text begins like a web address. -/
def isWebUrl (s : String) : Bool :=
  "http://".toList.isPrefixOf s.toList || "https://".toList.isPrefixOf s.toList

/-- The configuration of the service. -/
structure AppConfig where
  environment : Environment
  database : DatabaseConfig
  cache : CacheConfig
  auth : AuthConfig
  mailing : MailingConfig
  mailRelay : MailRelayConfig
  logging : LoggingConfig
  deriving DecidableEq, Repr, Inhabited

namespace AppConfig

/-- The built-in configuration. -/
def default : AppConfig :=
  { environment := .development, database := .default, cache := .default, auth := .default,
    mailing := .default, mailRelay := .default, logging := .forEnvironment .development }

/-- The configuration that the variables give. -/
def ofVariables (vars : Variables) : AppConfig :=
  let environment := Environment.ofVariables vars
  { environment
    database := .ofVariables vars
    cache := .ofVariables vars
    auth := .ofVariables vars
    mailing := .ofVariables vars
    mailRelay := .ofVariables vars
    logging := .ofVariables vars environment }

/-- Refuses a base that is no web address. -/
def checkLink (key url : String) : Except ConfigFault Unit :=
  if isWebUrl url then .ok ()
  else .error (.invalid key ("'" ++ url ++ "' is not an http(s) URL"))

/-- The check of a configuration. -/
def validate (c : AppConfig) : Except ConfigFault Unit := do
  if c.environment.isProduction && c.auth.jwt.isUsingDefaultSecret then
    throw .defaultSecret
  if c.environment.isProduction && c.database.url == DatabaseConfig.default.url then
    throw (.missing "DATABASE_URL")
  if c.auth.jwt.accessTokenExpiry ≤ 0 then
    throw (.invalid "JWT_ACCESS_TOKEN_EXPIRY" "must be positive")
  if c.auth.jwt.refreshTokenExpiry ≤ 0 then
    throw (.invalid "JWT_REFRESH_TOKEN_EXPIRY" "must be positive")
  checkLink "ACTIVATION_URL" c.auth.account.activationUrl
  checkLink "PASSWORD_RECOVERY_URL" c.auth.account.passwordRecoveryUrl
  if c.mailRelay.provider = .http ∧ c.mailRelay.relayUrl = none then
    throw (.missing "MAIL_RELAY_URL")

def toJson (c : AppConfig) : Json :=
  .obj [("environment", c.environment.toJson), ("database", c.database.toJson),
    ("cache", c.cache.toJson), ("auth", c.auth.toJson), ("mailing", c.mailing.toJson),
    ("mail_relay", c.mailRelay.toJson), ("logging", c.logging.toJson)]

def ofJson? (v : Json) : Option AppConfig :=
  match v.record? ["environment", "database", "cache", "auth", "mailing", "mail_relay",
      "logging"] with
  | some [environment, database, cache, auth, mailing, relay, logging] => do
      let environment ← environment.required Environment.ofJson?
      let database ← database.required DatabaseConfig.ofJson?
      let cache ← cache.required CacheConfig.ofJson?
      let auth ← auth.required AuthConfig.ofJson?
      let mailing ← mailing.withDefault .default MailingConfig.ofJson?
      let mailRelay ← relay.withDefault .default MailRelayConfig.ofJson?
      let logging ← logging.withDefault .default LoggingConfig.ofJson?
      some { environment, database, cache, auth, mailing, mailRelay, logging }
  | _ => none

end AppConfig

end Gatehouse
