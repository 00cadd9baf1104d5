/-
  Gatehouse/Simulation/PlayedCache.lean --- a cache that follows a plan.

  The cache records every command.  It keeps keys for ever, and may be told what to
  reply to a command, which then has no effect.  It may also be silent, or not be
  there at all.

  Main definitions: `PlayedCache`, `PlayedCache.answer`.
-/
import Gatehouse.Redis.Client
import Gatehouse.Simulation.Runtime

set_option autoImplicit false

namespace Gatehouse

/-- How the played cache behaves as a whole. -/
inductive CacheMood where
  | answers
  /-- It never replies. -/
  | silent
  /-- It is not there. -/
  | absent
  deriving DecidableEq, Repr, Inhabited

/-- The played cache. -/
structure PlayedCache where
  mood : CacheMood
  /-- The replies to the commands to come, but for those of the login: a text where
  the reply is planned. -/
  plan : List (Option String)
  /-- What was received, the last first. -/
  received : List RedisCommand
  /-- How often it was dialled. -/
  dialled : Nat
  keys : List String
  deriving Repr, Inhabited

namespace PlayedCache

/-- A cache that has received nothing. -/
def new (mood : CacheMood) (plan : List (Option String)) : PlayedCache :=
  { mood, plan, received := [], dialled := 0, keys := [] }

/-- Whether a command belongs to the login. -/
def isLogin : RedisCommand → Bool
  | .auth _ _ | .select _ => true
  | _ => false

/-- The reply to a command when none is planned, and the keys after it. -/
def usualReply (keys : List String) : RedisCommand → RedisReply × List String
  | .auth _ _ | .select _ => (.okay, keys)
  | .setFor key _ _ => (.okay, key :: keys)
  | .holds key => (.number (if keys.contains key then 1 else 0), keys)
  | .ping => (.status "PONG", keys)

/-- Receives a command and replies to it. -/
def answer (command : RedisCommand) (cache : PlayedCache) :
    Except RedisFault RedisReply × PlayedCache :=
  let cache := { cache with received := command :: cache.received }
  let (reply, keys) := usualReply cache.keys command
  if isLogin command then (.ok reply, cache)
  else
    let after := { cache with plan := cache.plan.drop 1 }
    match cache.plan with
    | some raw :: _ => ((RedisReply.parse? raw).getD (.error .garbled), after)
    | _ => (.ok reply, { after with keys })

/-- A wait that only a deadline ends. -/
def waitForever : Virtual PlayedCache Unit := pause 0x10000000000000000

instance : MonadRedis (Virtual PlayedCache) where
  dial _ := do
    Virtual.modifyWorld fun w => { w with dialled := w.dialled + 1 }
    match (← Virtual.world).mood with
    | .absent => pure (.error .unreachable)
    | .silent => do
        waitForever
        pure (.error .timeout)
    | .answers => do
        pause 1
        pure (.ok ())
  ask command := modifyGet fun rt =>
    let (reply, cache) := rt.world.answer command
    (reply, { rt with world := cache })

end PlayedCache

end Gatehouse
