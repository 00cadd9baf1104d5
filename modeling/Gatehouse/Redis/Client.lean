/-
  Gatehouse/Redis/Client.lean --- the client of the cache.

  A fault that may pass is met by trying again, after a pause that doubles from one
  attempt to the next up to a bound.  While connecting every fault may pass, and an
  attempt has a time limit.

  Main definitions: `MonadRedis`, `RedisClient.connect`, `RedisClient.execute`.
-/
import Gatehouse.Config.Stores
import Gatehouse.Effect
import Gatehouse.Infrastructure
import Gatehouse.Redis.Address
import Gatehouse.Redis.Reply

set_option autoImplicit false

namespace Gatehouse

/-! ## Commands -/

/-- What a cache is asked. -/
inductive RedisCommand where
  | auth (user : Option String) (password : String)
  | select (database : Int)
  /-- Keeps a value for some seconds. -/
  | setFor (key value : String) (seconds : Nat)
  | holds (key : String)
  | ping
  deriving DecidableEq, Repr, Inhabited

/-- The words of a command. -/
def RedisCommand.words : RedisCommand → List String
  | .auth none password => ["AUTH", password]
  | .auth (some user) password => ["AUTH", user, password]
  | .select database => ["SELECT", String.ofList (Numeral.ofInt database)]
  | .setFor key value seconds => ["SETEX", key, String.ofList (Numeral.ofNat seconds), value]
  | .holds key => ["EXISTS", key]
  | .ping => ["PING"]

/-- Talking to a cache. -/
class MonadRedis (m : Type → Type) where
  dial : RedisPlace → m (Except RedisFault Unit)
  ask : RedisCommand → m (Except RedisFault RedisReply)

/-! ## Trying again -/

/-- The longest pause, in milliseconds. -/
def maxRedisPause : Nat := 5000

/-- The pause after another one. -/
def nextRedisPause (pause : Nat) : Nat := min (pause * 2) maxRedisPause

section

variable {m : Type → Type} [Monad m] [MonadLog m] [MonadPause m]

/-- Gives up after some attempts. -/
def giveUpRedis {α : Type} (what : String) (made : Nat) (e : RedisFault) :
    m (Except RedisFault α) := do
  logError .cache (what ++ s!" after {made} attempts: " ++ e.message) []
  pure (.error e)

/-- Makes an attempt, and others after it while `left` is not used up and the fault
may pass; `made` attempts were made before. -/
def attemptRedis {α : Type} (what : String) (limit : Nat) (mayPass : RedisFault → Bool)
    (attempt : Nat → m (Except RedisFault α)) :
    (left made pauseMs : Nat) → m (Except RedisFault α)
  | 0, made, _ => do
      match ← attempt (made + 1) with
      | .ok a => pure (.ok a)
      | .error e => giveUpRedis what (made + 1) e
  | left + 1, made, pauseMs => do
      match ← attempt (made + 1) with
      | .ok a => pure (.ok a)
      | .error e =>
          if mayPass e then do
            logWarn .cache (what ++ s!" (attempt {made + 1}/{limit}): " ++ e.message
              ++ s!". Retrying in {pauseMs}ms...") []
            pause pauseMs
            attemptRedis what limit mayPass attempt left (made + 1) (nextRedisPause pauseMs)
          else giveUpRedis what (made + 1) e

end

/-! ## The client -/

/-- A connected client. -/
structure RedisClient where
  config : CacheConfig
  /-- How often something is tried. -/
  maxAttempts : Nat
  /-- The first pause, in milliseconds. -/
  delay : Nat
  deriving DecidableEq, Repr, Inhabited

namespace RedisClient

/-- The client as it is when nothing else is asked for. -/
def ofConfig (config : CacheConfig) : RedisClient := { config, maxAttempts := 3, delay := 100 }

/-- A key with the common prefix. -/
def key (c : RedisClient) (key : String) : String := c.config.prefixed key

section

variable {m : Type → Type} [Monad m] [MonadRedis m]

/-- A command that must be answered by OK. -/
def mustSucceed (command : RedisCommand) (fault : RedisFault) :
    ExceptT RedisFault m Unit := do
  match ← ExceptT.lift (MonadRedis.ask command) with
  | .ok .okay => pure ()
  | _ => throw fault

/-- Logs in.  A server that knows no users is told the password alone after that. -/
def authenticate (user : Option String) (password : String) : ExceptT RedisFault m Unit := do
  match ← ExceptT.lift (MonadRedis.ask (.auth user password)) with
  | .ok .okay => pure ()
  | .ok _ => throw .badLogin
  | .error f =>
      if f.wantsPasswordAlone then mustSucceed (.auth none password) .badLogin
      else throw .badLogin

/-- Connects once: dials, logs in, and chooses the database. -/
def login (a : RedisAddress) : ExceptT RedisFault m Unit := do
  ExceptT.mk (MonadRedis.dial a.place)
  match a.password with
  | none => pure ()
  | some password => authenticate a.user password
  if a.database = 0 then pure ()
  else mustSucceed (.select a.database) .badDatabase

variable [MonadLog m] [MonadPause m] [MonadDeadline m]

/-- Connects once within the time limit. -/
def loginInTime (c : RedisClient) (a : RedisAddress) (made : Nat) :
    m (Except RedisFault Unit) := do
  logDebug .cache s!"Attempting to connect to Redis (attempt {made})" []
  match ← within (c.config.connectionTimeout * 1000) (login a).run with
  | some r => pure r
  | none => pure (.error .timeout)

/-- Connects a client. -/
def connect (c : RedisClient) : ExceptT AdapterFault m Unit := do
  ExceptT.lift (logInfo .cache ("Creating Redis client with URL: " ++ maskUrl c.config.url) [])
  match RedisAddress.parse c.config.url with
  | .error f => do
      let text := (RedisFault.address f).message
      ExceptT.lift (logError .cache ("Failed to parse Redis URL: " ++ text) [])
      throw (.config ("Invalid Redis URL: " ++ text))
  | .ok a => do
      match ← ExceptT.lift (attemptRedis "Failed to connect to Redis" c.maxAttempts
          (fun _ => true) (c.loginInTime a) (c.maxAttempts - 1) 0 c.delay) with
      | .ok () => ExceptT.lift (logInfo .cache "Redis client created successfully" [])
      | .error f => throw (.cache f.message)

end

section

variable {m : Type → Type} [Monad m] [MonadRedis m] [MonadLog m] [MonadPause m]

/-- Sends a command once and reads its reply. -/
def askOnce {α : Type} (command : RedisCommand) (read : RedisReply → Except RedisFault α) :
    m (Except RedisFault α) := do
  let reply ← MonadRedis.ask command
  pure (reply.bind read)

/-- Sends a command, again if need be, and reads its reply. -/
def execute {α : Type} (c : RedisClient) (command : RedisCommand)
    (read : RedisReply → Except RedisFault α) : ExceptT AdapterFault m α := ExceptT.mk do
  let r ← attemptRedis "Redis operation failed" c.maxAttempts RedisFault.isTransient
    (fun _ => askOnce command read) (c.maxAttempts - 1) 0 c.delay
  pure (r.mapError fun f => .cache f.message)

/-- Keeps a value for some seconds; any reply but an error will do. -/
def setFor (c : RedisClient) (key value : String) (seconds : Nat) :
    ExceptT AdapterFault m Unit :=
  c.execute (.setFor key value seconds) fun _ => .ok ()

/-- Whether a key is held. -/
def holds (c : RedisClient) (key : String) : ExceptT AdapterFault m Bool :=
  c.execute (.holds key) RedisReply.flag

/-- Whether the cache answers as it should. -/
def isHealthy (c : RedisClient) : ExceptT AdapterFault m Bool := do
  let answer ← c.execute .ping RedisReply.string
  pure (answer == "PONG")

end

end RedisClient

end Gatehouse
