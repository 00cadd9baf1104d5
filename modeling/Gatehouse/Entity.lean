/-
  Gatehouse/Entity.lean --- users, mails, credentials, claims and token pairs.

  The things that the service keeps and hands out, with their JSON forms.  A user
  is written without the password hash but is read only with one.

  Main definitions: `User`, `Mail`, `Credential`, `TokenKind`, `Claims`,
  `TokenPair`, and for each `toJson` and `ofJson?`.
-/
import Gatehouse.Json.Record

set_option autoImplicit false

namespace Gatehouse

/-! ## Users -/

/-- A registered account.  It has no id until it has been stored. -/
structure User where
  id : Option Uuid
  name : String
  email : String
  passwordHash : String
  isActive : Bool
  deriving DecidableEq, Repr, Inhabited

namespace User

/-- A new user: not stored and not active. -/
def new (name email passwordHash : String) : User :=
  { id := none, name, email, passwordHash, isActive := false }

/-- Whether the user has been stored. -/
def isStored (u : User) : Bool := u.id.isSome

/-- The user with another password hash. -/
def withPasswordHash (u : User) (hash : String) : User := { u with passwordHash := hash }

end User

/-- The JSON form of an optional id. -/
def Json.ofId : Option Uuid → Json
  | none => .null
  | some id => .str id.text

/-- The JSON form of a user, which leaves the password hash out. -/
def User.toJson (u : User) : Json :=
  .obj [("id", .ofId u.id), ("name", .str u.name), ("email", .str u.email),
    ("is_active", .bool u.isActive)]

/-- Reads a user. -/
def User.ofJson? (v : Json) : Option User :=
  match v.record? ["id", "name", "email", "password_hash", "is_active"] with
  | some [id, name, email, hash, active] => do
      let id ← id.nullable Json.uuid?
      let name ← name.required Json.str?
      let email ← email.required Json.str?
      let passwordHash ← hash.required Json.str?
      let isActive ← active.required Json.bool?
      some { id, name, email, passwordHash, isActive }
  | _ => none

/-! ## Mails -/

/-- A mail of the outbox.  It has no id until it has been stored. -/
structure Mail where
  id : Option Uuid
  address : String
  subject : String
  content : String
  mailed : Bool
  deriving DecidableEq, Repr, Inhabited

namespace Mail

/-- A new mail: not stored and not sent. -/
def new (address subject content : String) : Mail :=
  { id := none, address, subject, content, mailed := false }

/-- Whether the mail has been stored. -/
def isStored (m : Mail) : Bool := m.id.isSome

/-- The mail, accepted by the transport. -/
def markMailed (m : Mail) : Mail := { m with mailed := true }

/-- The id as it appears in reports. -/
def logId (m : Mail) : String :=
  match m.id with
  | some id => id.text
  | none => "unsaved"

/-- The JSON form of a mail. -/
def toJson (m : Mail) : Json :=
  .obj [("id", .ofId m.id), ("address", .str m.address), ("subject", .str m.subject),
    ("content", .str m.content), ("mailed", .bool m.mailed)]

/-- Reads a mail. -/
def ofJson? (v : Json) : Option Mail :=
  match v.record? ["id", "address", "subject", "content", "mailed"] with
  | some [id, address, subject, content, mailed] => do
      let id ← id.nullable Json.uuid?
      let address ← address.required Json.str?
      let subject ← subject.required Json.str?
      let content ← content.required Json.str?
      let mailed ← mailed.required Json.bool?
      some { id, address, subject, content, mailed }
  | _ => none

end Mail

/-! ## Credentials -/

/-- What a credential is for. -/
inductive CredentialKind where
  | activation
  | recovery
  deriving DecidableEq, Repr, Inhabited

/-- A single-use token that was mailed to a user: it activates the account or
starts the change of a forgotten password. -/
structure Credential where
  token : String
  userId : Uuid
  deriving DecidableEq, Repr, Inhabited

namespace Credential

/-- The number of characters of a credential token. -/
def tokenLength : Nat := 32

/-- The characters of credential tokens. -/
def alphabet : List Char :=
  "ABCDEFGHIJKLMNOPQRSTUVWXYZabcdefghijklmnopqrstuvwxyz0123456789".toList

/-- The JSON form of a credential. -/
def toJson (c : Credential) : Json :=
  .obj [("token", .str c.token), ("user_id", .str c.userId.text)]

/-- Reads a credential. -/
def ofJson? (v : Json) : Option Credential :=
  match v.record? ["token", "user_id"] with
  | some [token, userId] => do
      let token ← token.required Json.str?
      let userId ← userId.required Json.uuid?
      some { token, userId }
  | _ => none

end Credential

/-! ## Tokens -/

/-- What a session token is for: access to requests, or making new access tokens. -/
inductive TokenKind where
  | access
  | refresh
  deriving DecidableEq, Repr, Inhabited

namespace TokenKind

/-- The name of a kind. -/
def name : TokenKind → String
  | .access => "access"
  | .refresh => "refresh"

/-- The name of a kind as it appears in the log. -/
def label : TokenKind → String
  | .access => "Access"
  | .refresh => "Refresh"

def toJson (k : TokenKind) : Json := .str k.name

def ofJson? : Json → Option TokenKind :=
  Json.name? [("access", .access), ("refresh", .refresh)]

end TokenKind

/-- The statements that a session token carries. -/
structure Claims where
  /-- The user, by id. -/
  sub : String
  /-- When the token was issued, in seconds. -/
  iat : Int
  /-- When it expires, in seconds. -/
  exp : Int
  /-- Who issued it. -/
  iss : String
  /-- An id of its own, so that two tokens of one second differ. -/
  jti : String
  typ : TokenKind
  deriving DecidableEq, Repr, Inhabited

namespace Claims

/-- The user that the claims speak of, none when the subject is no id. -/
def userId? (c : Claims) : Option Uuid := Uuid.parse? c.sub

def toJson (c : Claims) : Json :=
  .obj [("sub", .str c.sub), ("iat", .int c.iat), ("exp", .int c.exp), ("iss", .str c.iss),
    ("jti", .str c.jti), ("typ", c.typ.toJson)]

def ofJson? (v : Json) : Option Claims :=
  match v.record? ["sub", "iat", "exp", "iss", "jti", "typ"] with
  | some [sub, iat, exp, iss, jti, typ] => do
      let sub ← sub.required Json.str?
      let iat ← iat.required Json.int64?
      let exp ← exp.required Json.int64?
      let iss ← iss.required Json.str?
      let jti ← jti.required Json.str?
      let typ ← typ.required TokenKind.ofJson?
      some { sub, iat, exp, iss, jti, typ }
  | _ => none

end Claims

/-- The two tokens that a login hands out. -/
structure TokenPair where
  accessToken : String
  refreshToken : String
  deriving DecidableEq, Repr, Inhabited

namespace TokenPair

def toJson (p : TokenPair) : Json :=
  .obj [("access_token", .str p.accessToken), ("refresh_token", .str p.refreshToken)]

def ofJson? (v : Json) : Option TokenPair :=
  match v.record? ["access_token", "refresh_token"] with
  | some [access, refresh] => do
      let accessToken ← access.required Json.str?
      let refreshToken ← refresh.required Json.str?
      some { accessToken, refreshToken }
  | _ => none

end TokenPair

end Gatehouse
