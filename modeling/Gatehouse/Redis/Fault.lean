/-
  Gatehouse/Redis/Fault.lean --- what goes wrong between the client and the cache.

  Main definitions: `RedisFault`, `RedisFault.message`, `RedisFault.isTransient`,
  `RedisFault.wantsPasswordAlone`.
-/
import Gatehouse.Text.Search

set_option autoImplicit false

namespace Gatehouse

/-- The kinds of errors that a server signals by a code of its own. -/
inductive ServerErrorKind where
  | response
  | execAbort
  | busyLoading
  | noScript
  | moved
  | ask
  | tryAgain
  | clusterDown
  | crossSlot
  | masterDown
  | readOnly
  | notBusy
  deriving DecidableEq, Repr, Inhabited

namespace ServerErrorKind

/-- The kinds by code. -/
def codes : List (String × ServerErrorKind) :=
  [("ERR", .response), ("EXECABORT", .execAbort), ("LOADING", .busyLoading),
   ("NOSCRIPT", .noScript), ("MOVED", .moved), ("ASK", .ask), ("TRYAGAIN", .tryAgain),
   ("CLUSTERDOWN", .clusterDown), ("CROSSSLOT", .crossSlot), ("MASTERDOWN", .masterDown),
   ("READONLY", .readOnly), ("NOTBUSY", .notBusy)]

/-- The name of a kind in messages. -/
def name : ServerErrorKind → String
  | .response => "ResponseError"
  | .execAbort => "ExecAbortError"
  | .busyLoading => "BusyLoadingError"
  | .noScript => "NoScriptError"
  | .moved => "Moved"
  | .ask => "Ask"
  | .tryAgain => "TryAgain"
  | .clusterDown => "ClusterDown"
  | .crossSlot => "CrossSlot"
  | .masterDown => "MasterDown"
  | .readOnly => "ReadOnly"
  | .notBusy => "NotBusy"

end ServerErrorKind

/-- What is wrong with the address of a cache. -/
inductive RedisAddressFault where
  /-- It is no URL of a cache. -/
  | unreadable
  | noHost
  | noTls
  | database
  | user
  | password
  | noPath
  deriving DecidableEq, Repr, Inhabited

/-- The wording of a fault in an address. -/
def RedisAddressFault.message : RedisAddressFault → String
  | .unreadable => "Redis URL did not parse"
  | .noHost => "Missing hostname"
  | .noTls => "can't connect with TLS, the feature is not enabled"
  | .database => "Invalid database number"
  | .user => "Username is not valid UTF-8 string"
  | .password => "Password is not valid UTF-8 string"
  | .noPath => "Missing path"

/-- Why the cache did not do what it was asked. -/
inductive RedisFault where
  | address (fault : RedisAddressFault)
  /-- Nobody answers. -/
  | unreachable
  | timeout
  | badLogin
  | badDatabase
  /-- What came is no reply. -/
  | garbled
  | server (kind : ServerErrorKind) (detail : Option String)
  /-- The server signalled an error with a code that is not among the known ones. -/
  | extension (code : String) (detail : Option String)
  /-- The reply, shown as text, has not the type that was expected. -/
  | type (problem reply : String)
  /-- The reply is not text. -/
  | notText
  deriving DecidableEq, Repr, Inhabited

namespace RedisFault

/-- The wording of a fault: a description, then its kind, then its detail. -/
def message : RedisFault → String
  | .address f => f.message ++ "- InvalidClientConfig"
  | .unreachable => "Connection refused (os error 111)"
  | .timeout => "connection timed out- IoError"
  | .badLogin => "Password authentication failed- AuthenticationFailed"
  | .badDatabase => "Redis server refused to switch database- ResponseError"
  | .garbled => "parse error- ResponseError"
  | .server kind none => "An error was signalled by the server- " ++ kind.name
  | .server kind (some detail) =>
      "An error was signalled by the server - " ++ kind.name ++ ": " ++ detail
  | .extension code detail =>
      code ++ ": " ++ detail.getD "Unknown extension error encountered"
  | .type problem reply =>
      "Response was of incompatible type - TypeError: \"" ++ problem ++ "\" (response was "
        ++ reply ++ ")"
  | .notText => "Invalid UTF-8- TypeError"

/-- Whether a fault may pass when the command is sent again. -/
def isTransient : RedisFault → Bool
  | .unreachable | .timeout | .server .busyLoading _ | .server .tryAgain _ => true
  | _ => false

/-- What a server said beside the code of an error. -/
def detail? : RedisFault → Option String
  | .server _ detail | .extension _ detail => detail
  | _ => none

/-- Whether a fault is that of a server which knows no users and is told one. -/
def wantsPasswordAlone (f : RedisFault) : Bool :=
  match f.detail? with
  | none => false
  | some detail =>
      Text.contains "wrong number of arguments for 'auth' command".toList detail.toList

/-- The error that a server signals by a line: a code, and a detail after a blank. -/
def ofLine (line : List Char) : RedisFault :=
  let code := String.ofList (line.takeWhile (· ≠ ' '))
  let detail := match line.dropWhile (· ≠ ' ') with
    | [] => none
    | _ :: detail => some (String.ofList detail)
  match ServerErrorKind.codes.lookup code with
  | some kind => .server kind detail
  | none => .extension code detail

end RedisFault

end Gatehouse
