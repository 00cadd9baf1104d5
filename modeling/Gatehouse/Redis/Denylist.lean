/-
  Gatehouse/Redis/Denylist.lean --- revoked tokens in the cache.

  A token is denied while its key is held.  The key holds the digest of the token,
  never the token.  A length of time is rounded up to whole seconds.

  Main definitions: `denylistKey`, and the instance of `RevocationStore` for a client.
-/
import Gatehouse.Digest.Sha256
import Gatehouse.Redis.Client
import Gatehouse.Session.Service

set_option autoImplicit false

namespace Gatehouse

/-- What each key of the denylist begins with. -/
def denylistMark : String := "authtokenblacklist_"

/-- The key of a token in the denylist. -/
def denylistKey (token : String) : String :=
  denylistMark ++ String.ofList (Hex.encode (Sha256.hash (Utf8.bytes token)))

/-- The whole seconds of a length of time, rounded up, as a number of 64 bits. -/
def Ttl.secondsUp (t : Ttl) : Nat :=
  (if t.nanos % 1000000000 = 0 then t.seconds else t.seconds + 1) % 0x10000000000000000

namespace RedisClient

variable {m : Type → Type} [Monad m] [MonadRedis m] [MonadLog m] [MonadPause m]

/-- The key of a token, with the common prefix. -/
def tokenKey (c : RedisClient) (token : String) : String := c.key (denylistKey token)

/-- Denies a token for a length of time, which must not be empty. -/
def deny (c : RedisClient) (token : String) (ttl : Ttl) : ExceptT Failure m Unit := do
  if ttl.secondsUp = 0 then throw (.internal "Failed to revoke token: empty TTL")
  else do
    (c.setFor (c.tokenKey token) "1" ttl.secondsUp).adapt AdapterFault.toFailure
    ExceptT.lift (logDebug .denylist "Token added to denylist"
      [("ttl_secs", .number ttl.secondsUp)])

/-- Whether a token is denied. -/
def denies (c : RedisClient) (token : String) : ExceptT Failure m Bool :=
  (c.holds (c.tokenKey token)).adapt AdapterFault.toFailure

instance : RevocationStore (ReaderT RedisClient m) where
  put token ttl := fun c => c.deny token ttl
  denies token := fun c => c.denies token

end RedisClient

end Gatehouse
