/-
  Gatehouse/Proofs/Json/Documents.lean --- documents that are read back as they were written.

  The configuration, the entities and the names inside them are written as JSON and read
  back by functions of their own, which agree on the keys and on the meaning of what is
  absent or null.  A document is faithful if it fits into a text and reading undoes
  writing; a record is faithful as soon as its fields are, and a field of numbers if they
  are in the range of their type.

  Main definitions: `Json.Faithful`, `DocumentKind.format`.
  Main statements: `DocumentKind.faithful`, `DocumentKind.text_read_back`.
-/
import Gatehouse.Config.App
import Gatehouse.Entity
import Gatehouse.Proofs.Json.RoundTrip
import Gatehouse.Proofs.Session.Signing
import Gatehouse.Proofs.Text.Identifiers

set_option autoImplicit false

namespace Gatehouse

theorem Numeral.max32_le_max64 : max32 ≤ max64 := by decide

/-! ## Faithful fields -/

namespace Json

/-- Whether a thing is told from the value that it is written as, and that value from its
text. -/
structure Faithful {α : Type} (write : α → Json) (read : Json → Option α) (a : α) : Prop where
  fits : Fits (write a)
  reads : read (write a) = some a

theorem parse?_text {v : Json} (fits : Fits v) : parse? v.text = some v := by
  rw [parse?, Utf8.bytes, text, String.toList_ofList, parseBytes?_render fits]

theorem text_inj {v w : Json} (hv : Fits v) (hw : Fits w) : v.text = w.text ↔ v = w := by
  refine ⟨fun h => ?_, congrArg text⟩
  have hread : parse? v.text = parse? w.text := congrArg parse? h
  rw [parse?_text hv, parse?_text hw] at hread
  exact Option.some.inj hread

namespace Faithful

variable {α : Type} {write : α → Json} {read : Json → Option α} {a : α}

theorem parse?_text (h : Faithful write read a) :
    (Json.parse? (write a).text).bind read = some a := by
  rw [Json.parse?_text h.fits, Option.bind_some, h.reads]

theorem required (h : Faithful write read a) : (Slot.given (write a)).required read = some a :=
  h.reads

theorem withDefault (h : Faithful write read a) (default : α) :
    (Slot.given (write a)).withDefault default read = some a :=
  h.reads

theorem nullable {a : Option α} {write : Option α → Json} (h : Faithful write (optional? read) a) :
    (Slot.given (write a)).nullable read = some a :=
  h.reads

theorem str (s : String) : Faithful Json.str str? s := ⟨trivial, rfl⟩

theorem bool (b : Bool) : Faithful Json.bool bool? b := ⟨trivial, rfl⟩

theorem optStr : ∀ s : Option String, Faithful Json.optStr (optional? str?) s
  | none => ⟨trivial, rfl⟩
  | some _ => ⟨trivial, rfl⟩

theorem unsigned {bound n : Nat} (narrow : bound ≤ Numeral.max64) (range : n ≤ bound) :
    Faithful Json.nat (unsigned? bound) n := by
  refine ⟨⟨?_, ?_⟩, if_pos range⟩
  · omega
  · exact Int.ofNat_le.2 (Nat.le_trans range narrow)

theorem nat32 {n : Nat} (range : n ≤ Numeral.max32) : Faithful Json.nat nat32? n :=
  unsigned Numeral.max32_le_max64 range

theorem nat64 {n : Nat} (range : n ≤ Numeral.max64) : Faithful Json.nat nat64? n :=
  unsigned (Nat.le_refl Numeral.max64) range

theorem int64 {i : Int} (range : IsInt64 i) : Faithful Json.int int64? i :=
  ⟨range.fitsWord, if_pos range⟩

theorem uuid (u : Uuid) : Faithful (fun u => Json.str u.text) uuid? u := by
  refine ⟨trivial, ?_⟩
  rw [uuid?, str?, Option.bind_some, Uuid.parse?_text]

theorem ofId : ∀ u : Option Uuid, Faithful Json.ofId (optional? uuid?) u
  | none => ⟨trivial, rfl⟩
  | some u => ⟨trivial, by rw [Json.ofId, optional?, (uuid u).reads, Option.map_some]; nofun⟩

end Faithful

end Json

open Json (Faithful)

/-! ## The configuration -/

theorem Environment.faithful : ∀ e, Faithful toJson ofJson? e
  | .development => ⟨trivial, rfl⟩
  | .staging => ⟨trivial, rfl⟩
  | .production => ⟨trivial, rfl⟩

namespace DatabaseConfig

/-- Whether the numbers of a configuration are in the ranges of their types. -/
structure InRange (c : DatabaseConfig) : Prop where
  maxConnections : c.maxConnections ≤ Numeral.max32
  connectTimeout : c.connectTimeout ≤ Numeral.max64
  idleTimeout : c.idleTimeout ≤ Numeral.max64
  maxLifetime : c.maxLifetime ≤ Numeral.max64
  slowQueryThreshold : c.slowQueryThreshold ≤ Numeral.max64

theorem faithful {c : DatabaseConfig} (h : c.InRange) : Faithful toJson ofJson? c := by
  have hslots : c.toJson.record? ["url", "max_connections", "connect_timeout", "idle_timeout",
      "max_lifetime", "slow_query_threshold", "run_migrations"]
      = some [.given (.str c.url), .given (.nat c.maxConnections), .given (.nat c.connectTimeout),
          .given (.nat c.idleTimeout), .given (.nat c.maxLifetime),
          .given (.nat c.slowQueryThreshold), .given (.bool c.runMigrations)] := rfl
  have hurl := Faithful.str c.url
  have hconnections := Faithful.nat32 h.maxConnections
  have hconnect := Faithful.nat64 h.connectTimeout
  have hidle := Faithful.nat64 h.idleTimeout
  have hlifetime := Faithful.nat64 h.maxLifetime
  have hslow := Faithful.nat64 h.slowQueryThreshold
  have hmigrations := Faithful.bool c.runMigrations
  refine ⟨⟨hurl.fits, hconnections.fits, hconnect.fits, hidle.fits, hlifetime.fits, hslow.fits,
    hmigrations.fits, trivial⟩, ?_⟩
  simp only [ofJson?, hslots, hurl.required, hconnections.required, hconnect.required,
    hidle.required, hlifetime.required, hslow.withDefault, hmigrations.withDefault,
    Option.bind_eq_bind, Option.bind_some]

end DatabaseConfig

theorem CacheConfig.faithful {c : CacheConfig} (range : c.connectionTimeout ≤ Numeral.max64) :
    Faithful toJson ofJson? c := by
  have hslots : c.toJson.record? ["url", "connection_timeout", "key_prefix"]
      = some [.given (.str c.url), .given (.nat c.connectionTimeout),
          .given (.optStr c.keyPrefix)] := rfl
  have hurl := Faithful.str c.url
  have htimeout := Faithful.nat64 range
  have hfront := Faithful.optStr c.keyPrefix
  refine ⟨⟨hurl.fits, htimeout.fits, hfront.fits, trivial⟩, ?_⟩
  simp only [ofJson?, hslots, hurl.required, htimeout.required, hfront.withDefault,
    Option.bind_eq_bind, Option.bind_some]

namespace JwtConfig

/-- Whether the lifetimes of a configuration are signed numbers of 64 bits. -/
structure InRange (c : JwtConfig) : Prop where
  access : IsInt64 c.accessTokenExpiry
  refresh : IsInt64 c.refreshTokenExpiry

theorem faithful {c : JwtConfig} (h : c.InRange) : Faithful toJson ofJson? c := by
  have hslots : c.toJson.record? ["secret", "access_token_expiry", "refresh_token_expiry",
      "issuer"]
      = some [.given (.str c.secret), .given (.int c.accessTokenExpiry),
          .given (.int c.refreshTokenExpiry), .given (.str c.issuer)] := rfl
  have hsecret := Faithful.str c.secret
  have haccess := Faithful.int64 h.access
  have hrefresh := Faithful.int64 h.refresh
  have hissuer := Faithful.str c.issuer
  refine ⟨⟨hsecret.fits, haccess.fits, hrefresh.fits, hissuer.fits, trivial⟩, ?_⟩
  simp only [ofJson?, hslots, hsecret.required, haccess.required, hrefresh.required,
    hissuer.required, Option.bind_eq_bind, Option.bind_some]

end JwtConfig

theorem AccountConfig.faithful (c : AccountConfig) : Faithful toJson ofJson? c := by
  have hslots : c.toJson.record? ["activation_url", "password_recovery_url"]
      = some [.given (.str c.activationUrl), .given (.str c.passwordRecoveryUrl)] := rfl
  have hactivation := Faithful.str c.activationUrl
  have hrecovery := Faithful.str c.passwordRecoveryUrl
  refine ⟨⟨hactivation.fits, hrecovery.fits, trivial⟩, ?_⟩
  simp only [ofJson?, hslots, hactivation.required, hrecovery.required, Option.bind_eq_bind,
    Option.bind_some]

theorem AuthConfig.faithful {c : AuthConfig} (range : c.jwt.InRange) :
    Faithful toJson ofJson? c := by
  have hslots : c.toJson.record? ["jwt", "account"]
      = some [.given c.jwt.toJson, .given c.account.toJson] := rfl
  have hjwt := JwtConfig.faithful range
  have haccount := AccountConfig.faithful c.account
  refine ⟨⟨hjwt.fits, haccount.fits, trivial⟩, ?_⟩
  simp only [ofJson?, hslots, hjwt.required, haccount.withDefault, Option.bind_eq_bind,
    Option.bind_some]

namespace MailingConfig

/-- Whether the numbers of a configuration are in the ranges of their types. -/
structure InRange (c : MailingConfig) : Prop where
  delay : c.delay ≤ Numeral.max64
  processTimeout : c.processTimeout ≤ Numeral.max64
  batchSize : c.batchSize ≤ Numeral.max32
  processMaxRetries : c.processMaxRetries ≤ Numeral.max32
  saveMaxRetries : c.saveMaxRetries ≤ Numeral.max32
  retryDelay : c.retryDelay ≤ Numeral.max64

theorem faithful {c : MailingConfig} (h : c.InRange) : Faithful toJson ofJson? c := by
  have hslots : c.toJson.record? ["delay_ms", "process_timeout_ms", "batch_size",
      "process_max_retries", "save_max_retries", "retry_delay_ms"]
      = some [.given (.nat c.delay), .given (.nat c.processTimeout), .given (.nat c.batchSize),
          .given (.nat c.processMaxRetries), .given (.nat c.saveMaxRetries),
          .given (.nat c.retryDelay)] := rfl
  have hdelay := Faithful.nat64 h.delay
  have htimeout := Faithful.nat64 h.processTimeout
  have hbatch := Faithful.nat32 h.batchSize
  have hprocess := Faithful.nat32 h.processMaxRetries
  have hsave := Faithful.nat32 h.saveMaxRetries
  have hretry := Faithful.nat64 h.retryDelay
  refine ⟨⟨hdelay.fits, htimeout.fits, hbatch.fits, hprocess.fits, hsave.fits, hretry.fits,
    trivial⟩, ?_⟩
  simp only [ofJson?, hslots, hdelay.required, htimeout.required, hbatch.required,
    hprocess.required, hsave.required, hretry.required, Option.bind_eq_bind, Option.bind_some]

end MailingConfig

theorem MailProvider.faithful : ∀ p, Faithful toJson ofJson? p
  | .http => ⟨trivial, rfl⟩
  | .log => ⟨trivial, rfl⟩

theorem MailRelayConfig.faithful {c : MailRelayConfig}
    (range : c.requestTimeout ≤ Numeral.max64) : Faithful toJson ofJson? c := by
  have hslots : c.toJson.record? ["provider", "relay_url", "api_key", "from",
      "request_timeout_secs"]
      = some [.given c.provider.toJson, .given (.optStr c.relayUrl), .given (.optStr c.apiKey),
          .given (.str c.sender), .given (.nat c.requestTimeout)] := rfl
  have hprovider := MailProvider.faithful c.provider
  have hurl := Faithful.optStr c.relayUrl
  have hkey := Faithful.optStr c.apiKey
  have hsender := Faithful.str c.sender
  have htimeout := Faithful.nat64 range
  refine ⟨⟨hprovider.fits, hurl.fits, hkey.fits, hsender.fits, htimeout.fits, trivial⟩, ?_⟩
  simp only [ofJson?, hslots, hprovider.required, hurl.withDefault, hkey.withDefault,
    hsender.required, htimeout.required, Option.bind_eq_bind, Option.bind_some]

theorem LogFormat.faithful : ∀ f, Faithful toJson ofJson? f
  | .json => ⟨trivial, rfl⟩
  | .pretty => ⟨trivial, rfl⟩
  | .compact => ⟨trivial, rfl⟩

theorem LoggingConfig.faithful (c : LoggingConfig) : Faithful toJson ofJson? c := by
  have hslots : c.toJson.record? ["level", "format", "source_location"]
      = some [.given (.str c.level), .given c.format.toJson, .given (.bool c.sourceLocation)] :=
    rfl
  have hlevel := Faithful.str c.level
  have hformat := LogFormat.faithful c.format
  have hlocation := Faithful.bool c.sourceLocation
  refine ⟨⟨hlevel.fits, hformat.fits, hlocation.fits, trivial⟩, ?_⟩
  simp only [ofJson?, hslots, hlevel.required, hformat.withDefault, hlocation.withDefault,
    Option.bind_eq_bind, Option.bind_some]

namespace AppConfig

/-- Whether the numbers of all sections are in the ranges of their types. -/
structure InRange (c : AppConfig) : Prop where
  database : c.database.InRange
  cache : c.cache.connectionTimeout ≤ Numeral.max64
  jwt : c.auth.jwt.InRange
  mailing : c.mailing.InRange
  mailRelay : c.mailRelay.requestTimeout ≤ Numeral.max64

theorem faithful {c : AppConfig} (h : c.InRange) : Faithful toJson ofJson? c := by
  have hslots : c.toJson.record? ["environment", "database", "cache", "auth", "mailing",
      "mail_relay", "logging"]
      = some [.given c.environment.toJson, .given c.database.toJson, .given c.cache.toJson,
          .given c.auth.toJson, .given c.mailing.toJson, .given c.mailRelay.toJson,
          .given c.logging.toJson] := rfl
  have henvironment := Environment.faithful c.environment
  have hdatabase := DatabaseConfig.faithful h.database
  have hcache := CacheConfig.faithful h.cache
  have hauth := AuthConfig.faithful h.jwt
  have hmailing := MailingConfig.faithful h.mailing
  have hrelay := MailRelayConfig.faithful h.mailRelay
  have hlogging := LoggingConfig.faithful c.logging
  refine ⟨⟨henvironment.fits, hdatabase.fits, hcache.fits, hauth.fits, hmailing.fits, hrelay.fits,
    hlogging.fits, trivial⟩, ?_⟩
  simp only [ofJson?, hslots, henvironment.required, hdatabase.required, hcache.required,
    hauth.required, hmailing.withDefault, hrelay.withDefault, hlogging.withDefault,
    Option.bind_eq_bind, Option.bind_some]

end AppConfig

/-! ## Entities -/

theorem TokenKind.faithful : ∀ k, Faithful toJson ofJson? k
  | .access => ⟨trivial, rfl⟩
  | .refresh => ⟨trivial, rfl⟩

theorem Claims.faithful {c : Claims} (h : c.InRange) : Faithful toJson ofJson? c :=
  ⟨fits_toJson h, ofJson?_toJson h⟩

theorem TokenPair.faithful (p : TokenPair) : Faithful toJson ofJson? p := by
  have hslots : p.toJson.record? ["access_token", "refresh_token"]
      = some [.given (.str p.accessToken), .given (.str p.refreshToken)] := rfl
  have haccess := Faithful.str p.accessToken
  have hrefresh := Faithful.str p.refreshToken
  refine ⟨⟨haccess.fits, hrefresh.fits, trivial⟩, ?_⟩
  simp only [ofJson?, hslots, haccess.required, hrefresh.required, Option.bind_eq_bind,
    Option.bind_some]

theorem Mail.faithful (m : Mail) : Faithful toJson ofJson? m := by
  have hslots : m.toJson.record? ["id", "address", "subject", "content", "mailed"]
      = some [.given (.ofId m.id), .given (.str m.address), .given (.str m.subject),
          .given (.str m.content), .given (.bool m.mailed)] := rfl
  have hid := Faithful.ofId m.id
  have haddress := Faithful.str m.address
  have hsubject := Faithful.str m.subject
  have hcontent := Faithful.str m.content
  have hmailed := Faithful.bool m.mailed
  refine ⟨⟨hid.fits, haddress.fits, hsubject.fits, hcontent.fits, hmailed.fits, trivial⟩, ?_⟩
  simp only [ofJson?, hslots, hid.nullable, haddress.required, hsubject.required,
    hcontent.required, hmailed.required, Option.bind_eq_bind, Option.bind_some]

theorem Credential.faithful (c : Credential) : Faithful toJson ofJson? c := by
  have hslots : c.toJson.record? ["token", "user_id"]
      = some [.given (.str c.token), .given (.str c.userId.text)] := rfl
  have htoken := Faithful.str c.token
  have huser := Faithful.uuid c.userId
  refine ⟨⟨htoken.fits, huser.fits, trivial⟩, ?_⟩
  simp only [ofJson?, hslots, htoken.required, huser.required, Option.bind_eq_bind,
    Option.bind_some]

/-! ## Users -/

namespace User

theorem fits_toJson (u : User) : Json.Fits u.toJson :=
  ⟨(Faithful.ofId u.id).fits, trivial, trivial, trivial, trivial⟩

/-- Users are written alike exactly when at most their password hashes differ. -/
theorem toJson_eq_iff (u v : User) :
    u.toJson = v.toJson ↔ u.withPasswordHash v.passwordHash = v := by
  obtain ⟨id, name, email, hash, active⟩ := u
  obtain ⟨id', name', email', hash', active'⟩ := v
  have hid : Json.ofId id = Json.ofId id' ↔ id = id' := by
    refine ⟨fun h => ?_, congrArg Json.ofId⟩
    have hread := (Faithful.ofId id).reads
    rw [h, (Faithful.ofId id').reads] at hread
    exact (Option.some.inj hread).symm
  simp only [toJson, withPasswordHash, Json.obj.injEq, List.cons.injEq, Prod.mk.injEq, true_and,
    and_true, hid, Json.str.injEq, Json.bool.injEq, User.mk.injEq]

end User

/-! ## Kinds of documents -/

/-- The kinds of things that are written and read back. -/
inductive DocumentKind where
  | app
  | environment
  | database
  | cache
  | auth
  | jwt
  | account
  | mailing
  | mailProvider
  | mailRelay
  | logging
  | logFormat
  | tokenKind
  | claims
  | tokenPair
  | mail
  /-- A token of an activation or of a password recovery. -/
  | credential
  deriving DecidableEq, Repr, Inhabited

/-- Things of one type, with how they are written and read. -/
structure DocumentFormat where
  Value : Type
  toJson : Value → Json
  ofJson? : Json → Option Value
  /-- Whether the numbers in a thing are in the ranges of their types. -/
  InRange : Value → Prop

namespace DocumentKind

/-- The form of the documents of a kind. -/
def format : DocumentKind → DocumentFormat
  | .app => ⟨AppConfig, AppConfig.toJson, AppConfig.ofJson?, AppConfig.InRange⟩
  | .environment => ⟨Environment, Environment.toJson, Environment.ofJson?, fun _ => True⟩
  | .database =>
      ⟨DatabaseConfig, DatabaseConfig.toJson, DatabaseConfig.ofJson?, DatabaseConfig.InRange⟩
  | .cache =>
      ⟨CacheConfig, CacheConfig.toJson, CacheConfig.ofJson?,
        fun c => c.connectionTimeout ≤ Numeral.max64⟩
  | .auth => ⟨AuthConfig, AuthConfig.toJson, AuthConfig.ofJson?, fun c => c.jwt.InRange⟩
  | .jwt => ⟨JwtConfig, JwtConfig.toJson, JwtConfig.ofJson?, JwtConfig.InRange⟩
  | .account => ⟨AccountConfig, AccountConfig.toJson, AccountConfig.ofJson?, fun _ => True⟩
  | .mailing => ⟨MailingConfig, MailingConfig.toJson, MailingConfig.ofJson?, MailingConfig.InRange⟩
  | .mailProvider => ⟨MailProvider, MailProvider.toJson, MailProvider.ofJson?, fun _ => True⟩
  | .mailRelay =>
      ⟨MailRelayConfig, MailRelayConfig.toJson, MailRelayConfig.ofJson?,
        fun c => c.requestTimeout ≤ Numeral.max64⟩
  | .logging => ⟨LoggingConfig, LoggingConfig.toJson, LoggingConfig.ofJson?, fun _ => True⟩
  | .logFormat => ⟨LogFormat, LogFormat.toJson, LogFormat.ofJson?, fun _ => True⟩
  | .tokenKind => ⟨TokenKind, TokenKind.toJson, TokenKind.ofJson?, fun _ => True⟩
  | .claims => ⟨Claims, Claims.toJson, Claims.ofJson?, Claims.InRange⟩
  | .tokenPair => ⟨TokenPair, TokenPair.toJson, TokenPair.ofJson?, fun _ => True⟩
  | .mail => ⟨Mail, Mail.toJson, Mail.ofJson?, fun _ => True⟩
  | .credential => ⟨Credential, Credential.toJson, Credential.ofJson?, fun _ => True⟩

theorem faithful : ∀ (k : DocumentKind) (v : k.format.Value), k.format.InRange v →
    Faithful k.format.toJson k.format.ofJson? v
  | .app, _, range => AppConfig.faithful range
  | .environment, e, _ => Environment.faithful e
  | .database, _, range => DatabaseConfig.faithful range
  | .cache, _, range => CacheConfig.faithful range
  | .auth, _, range => AuthConfig.faithful range
  | .jwt, _, range => JwtConfig.faithful range
  | .account, c, _ => AccountConfig.faithful c
  | .mailing, _, range => MailingConfig.faithful range
  | .mailProvider, p, _ => MailProvider.faithful p
  | .mailRelay, _, range => MailRelayConfig.faithful range
  | .logging, c, _ => LoggingConfig.faithful c
  | .logFormat, f, _ => LogFormat.faithful f
  | .tokenKind, k, _ => TokenKind.faithful k
  | .claims, _, range => Claims.faithful range
  | .tokenPair, p, _ => TokenPair.faithful p
  | .mail, m, _ => Mail.faithful m
  | .credential, c, _ => Credential.faithful c

/-- The text of a document is read back as the thing that was written, whatever texts and
options are in it; the text of a user tells everything about it but the password hash. -/
theorem text_read_back :
    (∀ (k : DocumentKind) (v : k.format.Value), k.format.InRange v →
      (Json.parse? (k.format.toJson v).text).bind k.format.ofJson? = some v)
    ∧ ∀ u v : User, u.toJson.text = v.toJson.text ↔ u.withPasswordHash v.passwordHash = v := by
  constructor
  · intro k v range
    exact (faithful k v range).parse?_text
  · intro u v
    rw [Json.text_inj u.fits_toJson v.fits_toJson, User.toJson_eq_iff]

/-- A configuration with the least and greatest numbers, with an absent and an empty text,
and with characters that have to be escaped. -/
theorem text_read_back_extremes :
    let c : AppConfig :=
      { AppConfig.default with
        environment := .production
        database := { DatabaseConfig.default with
          maxConnections := Numeral.max32, maxLifetime := Numeral.max64, runMigrations := true }
        auth := { AuthConfig.default with
          jwt := { secret := "\"\\\n\u0000é𝄞", accessTokenExpiry := -0x8000000000000000,
                   refreshTokenExpiry := 0x7FFFFFFFFFFFFFFF, issuer := "" } }
        mailRelay := { MailRelayConfig.default with
          relayUrl := none, apiKey := some "", requestTimeout := 0 } }
    c.InRange ∧ (Json.parse? c.toJson.text).bind AppConfig.ofJson? = some c := by
  intro c
  have range : c.InRange := by
    refine ⟨⟨?_, ?_, ?_, ?_, ?_⟩, ?_, ⟨?_, ?_⟩, ⟨?_, ?_, ?_, ?_, ?_, ?_⟩, ?_⟩ <;> decide
  exact ⟨range, text_read_back.1 .app c range⟩

end DocumentKind

end Gatehouse
