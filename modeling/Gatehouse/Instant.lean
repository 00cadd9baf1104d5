/-
  Gatehouse/Instant.lean --- points in time.

  A point in time is a number of nanoseconds since 1970, possibly negative.  Its
  whole seconds are rounded down.  Dates reach from the year -262143 to the year
  262142; a lifetime in seconds is held in milliseconds of 64 bits.  Outside these
  bounds a sum of time does not exist.

  Main definitions: `Instant.seconds`, `Instant.after?`.
-/

set_option autoImplicit false

namespace Gatehouse

/-- A point in time, in nanoseconds since 1970. -/
structure Instant where
  nanos : Int
  deriving DecidableEq, Repr, Inhabited

namespace Instant

/-- Nanoseconds in a second. -/
def second : Int := 1000000000

/-- The point in time a number of milliseconds after 1970. -/
def ofMillis (ms : Int) : Instant := ⟨ms * 1000000⟩

/-- The whole seconds since 1970, rounded down. -/
def seconds (t : Instant) : Int := t.nanos.fdiv second

/-- The point in time some milliseconds later. -/
def advance (t : Instant) (ms : Int) : Instant := ⟨t.nanos + ms * 1000000⟩

/-- The first second that has a date. -/
def firstSecond : Int := -8334601228800

/-- The last second that has a date. -/
def lastSecond : Int := 8210266876799

/-- Whether a point in time has a date. -/
def hasDate (t : Instant) : Bool := firstSecond ≤ t.seconds && t.seconds ≤ lastSecond

/-- The longest lifetime, in seconds. -/
def maxLifetime : Int := 9223372036854775

/-- Whether a lifetime in seconds can be held. -/
def isLifetime (s : Int) : Bool := -maxLifetime ≤ s && s ≤ maxLifetime

/-- The point in time some seconds later, none when the lifetime cannot be held or
the sum has no date. -/
def after? (t : Instant) (s : Int) : Option Instant :=
  let later : Instant := ⟨t.nanos + s * second⟩
  if isLifetime s && later.hasDate then some later else none

end Instant

end Gatehouse
