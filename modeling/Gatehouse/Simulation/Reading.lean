/-
  Gatehouse/Simulation/Reading.lean --- values read from JSON, and what follows from them.

  Main definitions: `Reading.app`, `Reading.ofType?`.
-/
import Gatehouse.Config.App
import Gatehouse.Account.Service
import Gatehouse.Simulation.Report

set_option autoImplicit false

namespace Gatehouse.Reading

open Report

/-- The pace that a configuration gives the outbox. -/
def pace (d : Dispatcher) : List (String × Nat) :=
  [("delay_ms", d.delay), ("process_timeout_ms", d.processTimeout), ("batch_size", d.batchSize)]

/-- The lifetimes and the issuer of tokens. -/
def lifetimes (s : TokenService) : Json :=
  .arr [.int s.accessTtl, .int s.refreshTtl, .str s.issuer]

/-- A configuration, whether it is sound, and what the services make of it. -/
def app (c : AppConfig) : Json :=
  .obj [("config", c.toJson),
    ("validate", match c.validate with
      | .ok () => .null
      | .error e => .obj [("error", .str e.name), ("message", .str e.message)]),
    ("environment", .str c.environment.name),
    ("is_production", .bool c.environment.isProduction),
    ("default_secret", .bool c.auth.jwt.isUsingDefaultSecret),
    ("database_is_local", .bool c.database.isLocal),
    ("prefixed", .str (c.cache.prefixed "key")),
    ("outbox", .obj ((pace (.ofConfig c.mailing)).map fun p => (p.1, .nat p.2))),
    ("token", lifetimes (.ofConfig c.auth.jwt))]

/-- The built-in settings. -/
def defaults : Json :=
  .obj [("app", app .default),
    ("outbox", .arr ((pace (.ofConfig .default)).map fun p => .nat p.2)),
    ("token", lifetimes .default), ("logging", LoggingConfig.default.toJson)]

/-- Whether claims have expired, and how long they last, at some times. -/
def checks (c : Claims) (times : List Int) : Json :=
  .arr (times.map fun t =>
    .arr [.bool (c.isExpiredAt (.ofMillis t)), .int (c.remainingSeconds (.ofMillis t))])

/-- Reads a value and shows it again. -/
def shown {α : Type} (read : Json → Option α) (view : α → Json) (v : Json) : Option Json :=
  (read v).map view

/-- The reading of the settings of a type. -/
def settings? : String → Option (Json → Option Json)
  | "app_config" => some (shown AppConfig.ofJson? app)
  | "environment" => some (shown Environment.ofJson? Environment.toJson)
  | "log_format" => some (shown LogFormat.ofJson? LogFormat.toJson)
  | "mail_provider" => some (shown MailProvider.ofJson? MailProvider.toJson)
  | "jwt_config" => some (shown JwtConfig.ofJson? JwtConfig.toJson)
  | "account_config" => some (shown AccountConfig.ofJson? AccountConfig.toJson)
  | "auth_config" => some (shown AuthConfig.ofJson? AuthConfig.toJson)
  | "cache_config" => some (shown CacheConfig.ofJson? CacheConfig.toJson)
  | "database_config" => some (shown DatabaseConfig.ofJson? DatabaseConfig.toJson)
  | "mailing_config" => some (shown MailingConfig.ofJson? MailingConfig.toJson)
  | "mail_relay_config" => some (shown MailRelayConfig.ofJson? MailRelayConfig.toJson)
  | "logging_config" => some (shown LoggingConfig.ofJson? LoggingConfig.toJson)
  | _ => none

/-- The reading of a value of a type. -/
def ofType? : String → Option (Json → Option Json)
  | "user" => some (shown User.ofJson? fun u =>
      .arr [u.toJson, .str u.passwordHash, .bool u.isStored])
  | "mail" => some (shown Mail.ofJson? fun m => .arr [m.toJson, .str m.logId, .bool m.isStored])
  | "claims" => some (shown Claims.ofJson? fun c => .arr [c.toJson, optId c.userId?])
  | "signup_input" => some (shown SignupInput.ofJson? fun i =>
      .arr [.str i.name, .str i.email, .str i.password])
  | "login_input" => some (shown LoginInput.ofJson? fun i => .arr [.str i.email, .str i.password])
  | "logout_input" => some (shown LogoutInput.ofJson? fun i =>
      .arr [.optStr i.accessToken, .str i.refreshToken])
  | "recover_input" => some (shown RecoverInput.ofJson? fun i =>
      .arr [.str i.token, .str i.oldPassword, .str i.newPassword])
  | "token_pair" => some (shown TokenPair.ofJson? TokenPair.toJson)
  | "token_kind" => some (shown TokenKind.ofJson? TokenKind.toJson)
  | "activation" | "recovery" => some (shown Credential.ofJson? Credential.toJson)
  | type => settings? type

end Gatehouse.Reading
