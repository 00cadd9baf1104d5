/-
  Gatehouse/Session/Service.lean --- issuing, renewing and revoking tokens.

  A login hands out an access token and a refresh token; a refresh token makes
  further access tokens.  A revoked token is remembered by a denylist for as long
  as it would otherwise be accepted.  Whoever presents a token learns only that it
  was not accepted, not why.

  Main definitions: `TokenService`, with `issue`, `refresh`, `authorize`,
  `invalidate` and `invalidateRefresh`.
-/
import Gatehouse.Config.Auth
import Gatehouse.Effect
import Gatehouse.Session.Jwt

set_option autoImplicit false

namespace Gatehouse

/-! ## Collaborators -/

/-- A length of time that is not negative, in nanoseconds. -/
structure Ttl where
  nanos : Nat
  deriving DecidableEq, Repr, Inhabited

/-- Some whole seconds. -/
def Ttl.ofSeconds (s : Nat) : Ttl := ⟨s * 1000000000⟩

/-- The whole seconds of a length of time. -/
def Ttl.seconds (t : Ttl) : Nat := t.nanos / 1000000000

/-- The whole milliseconds of a length of time. -/
def Ttl.millis (t : Ttl) : Nat := t.nanos / 1000000

/-- Making and checking tokens. -/
class TokenSigner (m : Type → Type) where
  sign : Claims → ExceptT Failure m String
  verify : String → ExceptT Failure m Claims

/-- The denylist of revoked tokens. -/
class RevocationStore (m : Type → Type) where
  /-- Denies a token for a length of time. -/
  put : String → Ttl → ExceptT Failure m Unit
  /-- Whether a token is denied. -/
  denies : String → ExceptT Failure m Bool

/-- Checks a token; a refusal is logged without its reason. -/
def JwtSigner.verify {m : Type → Type} [Monad m] [MonadLog m] (s : JwtSigner)
    (token : String) : ExceptT Failure m Claims := ExceptT.mk do
  match s.verify? token with
  | some claims => pure (.ok claims)
  | none =>
      logDebug .signer "token verification failed" []
      pure (.error (.token .invalid))

/-! ## Claims over time -/

namespace Claims

/-- Claims for a user, valid for `ttl` seconds; none when the end does not exist. -/
def mint? (kind : TokenKind) (user : Uuid) (issued : Instant) (ttl : Int) (issuer : String)
    (jti : Uuid) : Option Claims :=
  (issued.after? ttl).map fun expiry =>
    { sub := user.text, iat := issued.seconds, exp := expiry.seconds, iss := issuer,
      jti := jti.text, typ := kind }

/-- Whether the claims have expired. -/
def isExpiredAt (c : Claims) (t : Instant) : Bool := c.exp ≤ t.seconds

/-- The seconds left, negative after the end.  The difference is not cut to a word.  From 1970
on and for claims that a signer accepts, counting in words of 64 bits gives the same
(`Claims.countedExactly_of_verify?`); before 1970 it could overflow. -/
def remainingSeconds (c : Claims) (t : Instant) : Int := c.exp - t.seconds

end Claims

/-! ## The service -/

/-- Lifetimes in seconds, and the issuer. -/
structure TokenService where
  accessTtl : Int
  refreshTtl : Int
  issuer : String
  deriving DecidableEq, Repr, Inhabited

namespace TokenService

/-- The service with the built-in lifetimes. -/
def default : TokenService := { accessTtl := 3600, refreshTtl := 604800, issuer := "yas" }

/-- The service of a configuration. -/
def ofConfig (c : JwtConfig) : TokenService :=
  { accessTtl := c.accessTokenExpiry, refreshTtl := c.refreshTokenExpiry, issuer := c.issuer }

/-- The lifetime of tokens of a kind. -/
def ttl (s : TokenService) : TokenKind → Int
  | .access => s.accessTtl
  | .refresh => s.refreshTtl

variable {m : Type → Type} [Monad m] [MonadLog m] [MonadClock m] [MonadRandom m] [MonadHalt m]
  [TokenSigner m] [RevocationStore m]

/-- The refusal of a token. -/
def refuse {α : Type} : ExceptT Failure m α := throw (.token .invalid)

/-- Makes a token of a kind for a user. -/
def make (s : TokenService) (kind : TokenKind) (user : Uuid) (issued : Instant) :
    ExceptT Failure m String := do
  let jti ← ExceptT.lift freshId
  match Claims.mint? kind user issued (s.ttl kind) s.issuer jti with
  | none => ExceptT.lift halt
  | some claims => TokenSigner.sign claims

/-- Issues a pair of tokens with one time of issue. -/
def issue (s : TokenService) (user : Uuid) : ExceptT Failure m TokenPair := do
  let issued ← ExceptT.lift now
  let accessToken ← s.make .access user issued
  let refreshToken ← s.make .refresh user issued
  ExceptT.lift (logInfo .tokens "Issued token pair" [("user_id", .text user.text)])
  pure { accessToken, refreshToken }

/-- The claims of a token of the wanted kind that has not expired. -/
def verifyLive (token : String) (wanted : TokenKind) : ExceptT Failure m Claims := do
  let claims ← TokenSigner.verify token
  if claims.typ ≠ wanted then refuse
  else
    let t ← ExceptT.lift now
    if claims.isExpiredAt t then refuse else pure claims

/-- Refuses a token that was revoked. -/
def ensureNotRevoked (token : String) : ExceptT Failure m Unit := do
  if ← RevocationStore.denies token then refuse else pure ()

/-- The user that claims speak of. -/
def subject (claims : Claims) : ExceptT Failure m Uuid :=
  match claims.userId? with
  | some id => pure id
  | none => refuse

/-- Makes a new access token from a refresh token. -/
def refresh (s : TokenService) (token : String) : ExceptT Failure m String := do
  let claims ← verifyLive token .refresh
  ensureNotRevoked token
  let user ← subject claims
  let t ← ExceptT.lift now
  s.make .access user t

/-- The user behind an access token. -/
def authorize (token : String) : ExceptT Failure m Uuid := do
  let claims ← verifyLive token .access
  ensureNotRevoked token
  subject claims

/-- Denies a token for the rest of its life; an expired one is refused. -/
def revoke (token : String) (claims : Claims) : ExceptT Failure m Unit := do
  let t ← ExceptT.lift now
  let remaining := claims.remainingSeconds t
  if remaining ≤ 0 then throw (.token (.negativeTtl (-remaining)))
  else do
    RevocationStore.put token (.ofSeconds remaining.toNat)
    ExceptT.lift (logDebug .tokens "Token revoked"
      [("kind", .text claims.typ.label), ("ttl_secs", .number remaining)])

/-- Revokes a token of either kind. -/
def invalidate (token : String) : ExceptT Failure m Unit := do
  let claims ← TokenSigner.verify token
  revoke token claims

/-- Revokes a refresh token; an access token is refused. -/
def invalidateRefresh (token : String) : ExceptT Failure m Unit := do
  let claims ← TokenSigner.verify token
  if claims.typ ≠ .refresh then refuse else revoke token claims

end TokenService

end Gatehouse
