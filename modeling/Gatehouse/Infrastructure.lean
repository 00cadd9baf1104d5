/-
  Gatehouse/Infrastructure.lean --- faults of the database, the cache and the relay.

  A fault of an adapter reaches the workflows as an internal failure whose message
  names the adapter.
-/
import Gatehouse.Failure

set_option autoImplicit false

namespace Gatehouse

/-- What went wrong in an adapter, in its own words. -/
inductive AdapterFault where
  /-- A fault of the database, and what is behind it. -/
  | database (message : String) (causes : List String)
  | cache (message : String)
  | http (message : String)
  | config (message : String)
  | mail (message : String)
  deriving DecidableEq, Repr, Inhabited

namespace AdapterFault

/-- The wording of a fault. -/
def message : AdapterFault → String
  | .database m _ => "Database error: " ++ m
  | .cache m => "Cache error: " ++ m
  | .http m => "HTTP request error: " ++ m
  | .config m => "Configuration error: " ++ m
  | .mail m => "Mail relay error: " ++ m

/-- The wording of a fault and of all that is behind it. -/
def chain (f : AdapterFault) : List String :=
  match f with
  | .database m causes => f.message :: m :: causes
  | .cache m | .http m => [f.message, m]
  | .config _ | .mail _ => [f.message]

/-- The failure that a fault is to the workflows. -/
def toFailure (f : AdapterFault) : Failure := .internal f.message

end AdapterFault

end Gatehouse
