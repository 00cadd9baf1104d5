/-
  Gatehouse/Url/Basic.lean --- addresses and their text.

  An address has a scheme, perhaps an authority (a user, a host and a port), a
  path, and perhaps a query and a fragment.  A few schemes are special: their
  addresses always have a host and a path, and their default port is not written.
  A path is a list of segments, or any text behind the scheme.

  Main definitions: `Url`, `Url.text`.
-/
import Gatehouse.Url.Host

set_option autoImplicit false

namespace Gatehouse

/-- The kinds of schemes. -/
inductive SchemeKind where
  | file
  /-- A scheme whose addresses always name a host. -/
  | special
  | other
  deriving DecidableEq, Repr, Inhabited

namespace SchemeKind

/-- The kind of a scheme, by name. -/
def ofName (scheme : List Char) : SchemeKind :=
  if scheme = "file".toList then .file
  else if ["http".toList, "https".toList, "ws".toList, "wss".toList, "ftp".toList].contains
      scheme then .special
  else .other

/-- Whether a backslash separates segments as a slash does. -/
def takesBackslash (k : SchemeKind) : Bool := k ≠ .other

end SchemeKind

/-- The port that a scheme uses when none is written. -/
def defaultPort? (scheme : List Char) : Option Nat :=
  if scheme = "http".toList ∨ scheme = "ws".toList then some 80
  else if scheme = "https".toList ∨ scheme = "wss".toList then some 443
  else if scheme = "ftp".toList then some 21
  else none

/-- The path of an address. -/
inductive UrlPath where
  /-- Text behind the scheme. -/
  | bare (text : List Char)
  /-- Segments, each with a slash in front. -/
  | segments (parts : List (List Char))
  deriving DecidableEq, Repr, Inhabited

/-- The text of a path. -/
def UrlPath.text : UrlPath → List Char
  | .bare text => text
  | .segments parts => parts.flatMap fun part => '/' :: part

/-- The user and host of an address; the host is absent when the address only has
the two slashes. -/
structure Authority where
  user : List Char
  password : List Char
  host : Option Host
  port : Option Nat
  deriving DecidableEq, Repr, Inhabited

/-- The text of an authority. -/
def Authority.text (a : Authority) : List Char :=
  let secret := if a.password.isEmpty then [] else ':' :: a.password
  let login := if a.user.isEmpty && a.password.isEmpty then [] else a.user ++ secret ++ ['@']
  let host := match a.host with
    | some h => h.text
    | none => []
  let port := match a.port with
    | some n => ':' :: Numeral.ofNat n
    | none => []
  login ++ host ++ port

/-- An address, its texts already in the form in which they are written. -/
structure Url where
  scheme : List Char
  authority : Option Authority
  path : UrlPath
  query : Option (List Char)
  fragment : Option (List Char)
  deriving DecidableEq, Repr, Inhabited

namespace Url

/-- The text between the scheme and the path.  A path that begins with two slashes
and has no authority in front is kept apart from one by a dot. -/
def front (u : Url) : List Char :=
  match u.authority, u.path with
  | some a, _ => '/' :: '/' :: a.text
  | none, .segments ([] :: _ :: _) => ['/', '.']
  | none, _ => []

/-- A part of an address with its mark in front, nothing when it is absent. -/
def marked (mark : Char) : Option (List Char) → List Char
  | none => []
  | some cs => mark :: cs

/-- The text of an address. -/
def text (u : Url) : List Char :=
  u.scheme ++ ':' :: (u.front ++ u.path.text ++ marked '?' u.query ++ marked '#' u.fragment)

/-- The kind of an address's scheme. -/
def kind (u : Url) : SchemeKind := .ofName u.scheme

/-- The host of an address. -/
def host? (u : Url) : Option Host := u.authority.bind Authority.host

end Url

end Gatehouse
