/-
  Gatehouse/Redis/Address.lean --- the address of a cache.

  The address is a URL.  Under `redis` it names a host, and its path is the number
  of the database; under `unix` its path is that of a socket, and the rest stands in
  its query.

  Main definitions: `RedisAddress`, `RedisAddress.parse`.
-/
import Gatehouse.Mailing.Template
import Gatehouse.Redis.Fault
import Gatehouse.Text.Search
import Gatehouse.Url.Parser

set_option autoImplicit false

namespace Gatehouse

/-- Where a cache is reached. -/
inductive RedisPlace where
  | host (name : String) (port : Nat)
  | socket (path : List UInt8)
  deriving DecidableEq, Repr, Inhabited

/-- Where a cache is reached, and how to log in. -/
structure RedisAddress where
  place : RedisPlace
  database : Int
  user : Option String
  password : Option String
  deriving DecidableEq, Repr, Inhabited

namespace RedisAddress

/-- The port that is used when none is written. -/
def defaultPort : Nat := 6379

/-- The name of a host; an address of version 6 has no brackets. -/
def hostName : Host → String
  | .ipv6 pieces => String.ofList ((Host.ipv6 pieces).text.filter fun c => c ≠ '[' ∧ c ≠ ']')
  | h => String.ofList h.text

/-- The number of a database. -/
def databaseNumber (cs : List Char) : Except RedisAddressFault Int :=
  match Numeral.readSigned Numeral.maxInt64 cs with
  | .ok i => .ok i
  | .error _ => .error .database

/-- A part of the login that is written as bytes; none when it is empty. -/
def loginPart (cs : List Char) (fault : RedisAddressFault) :
    Except RedisAddressFault (Option String) :=
  if cs.isEmpty then .ok none
  else
    match Utf8.string? (Percent.bytes cs) with
    | some s => .ok (some s)
    | none => .error fault

/-- The text between the slashes at both ends. -/
def withoutSlashes (cs : List Char) : List Char :=
  ((cs.dropWhile (· = '/')).reverse.dropWhile (· = '/')).reverse

/-- The address with a host. -/
def ofHostUrl (u : Url) (h : Host) : Except RedisAddressFault RedisAddress := do
  let path := withoutSlashes u.path.text
  let database ← if path.isEmpty then .ok 0 else databaseNumber path
  let user ← loginPart ((u.authority.map Authority.user).getD []) .user
  let password ← loginPart ((u.authority.map Authority.password).getD []) .password
  let port := (u.authority.bind Authority.port).getD defaultPort
  pure { place := .host (hostName h) port, database, user, password }

/-- The value of a name in a query: the last one counts. -/
def lastPair? (pairs : List Form.Pair) (name : String) : Option (List Char) :=
  pairs.reverse.lookup name.toList

/-- The path of a socket. -/
def socketPath? (u : Url) : Option (List UInt8) :=
  match u.path, u.host? with
  | .segments (p :: ps), h =>
      if h = none ∨ h = some (.plain "localhost".toList)
          ∨ h = some (.domain "localhost".toList) then
        some (Percent.bytes (UrlPath.segments (p :: ps)).text)
      else none
  | _, _ => none

/-- The address with a socket. -/
def ofSocketUrl (u : Url) : Except RedisAddressFault RedisAddress := do
  match socketPath? u with
  | none => throw .noPath
  | some path => do
      let database ← match lastPair? u.pairs "db" with
        | some cs => databaseNumber cs
        | none => .ok 0
      pure { place := .socket path, database,
             user := (lastPair? u.pairs "user").map String.ofList,
             password := (lastPair? u.pairs "pass").map String.ofList }

/-- Reads an address. -/
def parse (s : String) : Except RedisAddressFault RedisAddress :=
  match Url.parse s.toList with
  | .error _ => .error .unreadable
  | .ok u =>
      let scheme := String.ofList u.scheme
      if scheme = "redis" ∨ scheme = "rediss" then
        match u.host? with
        | none => .error .noHost
        | some h => if scheme = "rediss" then .error .noTls else ofHostUrl u h
      else if scheme = "unix" ∨ scheme = "redis+unix" then ofSocketUrl u
      else .error .unreadable

end RedisAddress

/-- The address with the user and password hidden: what stands between the first
`://` and the first `@` is not shown. -/
def maskUrl (s : String) : String :=
  let cs := s.toList
  match Text.splitAt? "://".toList cs, cs.dropWhile (· ≠ '@') with
  | some (scheme, _), '@' :: rest =>
      String.ofList (scheme ++ "://****@".toList ++ rest)
  | _, _ => s

end Gatehouse
