/-
  Gatehouse/MySql/Options.lean --- the address of the database.

  The address is a URL: its user, host, port and path say where to log in and to
  which database; some names in its query set how.

  Main definitions: `ConnectOptions`, `ConnectOptions.parse`.
-/
import Gatehouse.Mailing.Template
import Gatehouse.Text.Quoted
import Gatehouse.Url.Parser

set_option autoImplicit false

namespace Gatehouse.MySql

/-- How much a connection is to be encrypted. -/
inductive SslMode where
  | disabled
  | preferred
  | required
  | verifyCa
  | verifyIdentity
  deriving DecidableEq, Repr, Inhabited

/-- The modes by name. -/
def SslMode.names : List (String × SslMode) :=
  [("disabled", .disabled), ("preferred", .preferred), ("required", .required),
   ("verify_ca", .verifyCa), ("verify_identity", .verifyIdentity)]

/-- Why an address is refused. -/
inductive OptionsFault where
  | url (fault : UrlFault)
  /-- A part that is written as bytes is no text. -/
  | text (fault : Utf8.Fault)
  | number (fault : Numeral.Fault)
  | sslMode (name : String)
  deriving DecidableEq, Repr, Inhabited

/-- What is in front of the wording of a fault in a setting. -/
def OptionsFault.lead : String := "error with configuration: "

/-- The wording of a fault. -/
def OptionsFault.message : OptionsFault → String
  | .url f => lead ++ f.message
  | .text f => lead ++ f.message
  | .number f => lead ++ f.message
  | .sslMode name => lead ++ lead ++ "unknown value " ++ Text.quoted name ++ " for `ssl_mode`"

/-- Where and how to log in. -/
structure ConnectOptions where
  user : String
  password : Option String
  host : String
  port : Nat
  database : Option String
  sslMode : SslMode
  /-- How many prepared statements are kept. -/
  statementCache : Nat
  deriving DecidableEq, Repr, Inhabited

namespace ConnectOptions

/-- What an address leaves open. -/
def default : ConnectOptions :=
  { user := "root", password := none, host := "localhost", port := 3306, database := none,
    sslMode := .preferred, statementCache := 100 }

/-- A part that is written as bytes. -/
def decode (part : List Char) : Except OptionsFault String :=
  let bytes := Percent.bytes part
  match Utf8.string? bytes with
  | some s => .ok s
  | none => .error (.text ((Utf8.firstFault? bytes).getD ⟨0, none⟩))

/-- A part that counts as absent when it is empty. -/
def decodeOpt (part : List Char) : Except OptionsFault (Option String) :=
  if part.isEmpty then .ok none else (decode part).map some

/-- The options with one setting of the query; unknown names are passed over. -/
def withPair (o : ConnectOptions) (p : Form.Pair) : Except OptionsFault ConnectOptions :=
  let name := String.ofList p.1
  if name = "sslmode" ∨ name = "ssl-mode" then
    match SslMode.names.lookup (String.ofList (p.2.map Char.toLower)) with
    | some sslMode => .ok { o with sslMode }
    | none => .error (.sslMode (String.ofList p.2))
  else if name = "statement-cache-capacity" then
    match Numeral.readUnsigned Numeral.max64 p.2 with
    | .ok statementCache => .ok { o with statementCache }
    | .error f => .error (.number f)
  else .ok o

/-- The options that an address gives. -/
def ofUrl (u : Url) : Except OptionsFault ConnectOptions := do
  let user ← decodeOpt ((u.authority.map Authority.user).getD [])
  let password ← decodeOpt ((u.authority.map Authority.password).getD [])
  let database ← decodeOpt (u.path.text.dropWhile (· = '/'))
  let o :=
    { default with
      user := user.getD default.user
      password, database
      host := (u.host?.map fun h => String.ofList h.text).getD default.host
      port := (u.authority.bind Authority.port).getD default.port }
  u.pairs.foldlM withPair o

/-- Reads an address. -/
def parse (s : String) : Except OptionsFault ConnectOptions :=
  match Url.parse s.toList with
  | .ok u => ofUrl u
  | .error f => .error (.url f)

end ConnectOptions

end Gatehouse.MySql
