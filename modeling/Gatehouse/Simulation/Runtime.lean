/-
  Gatehouse/Simulation/Runtime.lean --- running workflows in virtual time.

  Time stands still while code runs and moves only while it waits: a wait of n
  milliseconds ends exactly n milliseconds later.  A wait that would end after a
  deadline, or after the program was asked to stop, is cut there, and the work it
  belongs to is given up.  Log events and observations are kept in order; fresh
  ids and tokens come from a source that is part of the state.

  Main definitions: `Runtime`, `Virtual`, `Runtime.wait`.
-/
import Gatehouse.UnitOfWork
import Gatehouse.Entity

set_option autoImplicit false

namespace Gatehouse

/-! ## The state -/

/-- When the program is asked to stop, and whether the request comes first when
something else happens at the same instant. -/
structure StopRequest where
  instant : Nat
  winsTies : Bool
  deriving DecidableEq, Repr, Inhabited

/-- Why work is given up in the middle. -/
inductive Cut where
  | deadline
  | stop
  /-- A sum of time does not exist. -/
  | overflow
  deriving DecidableEq, Repr, Inhabited

/-- A source of ids, credential tokens and bytes, with the number of draws so far. -/
structure Entropy where
  idAt : Nat → Uuid
  tokenAt : Nat → String
  /-- The byte of a draw at an index. -/
  byteAt : Nat → Nat → UInt8
  drawn : Nat

/-- Where observations go. -/
inductive ObserverKind where
  /-- They are kept. -/
  | record
  /-- They are written to the log. -/
  | trace
  deriving DecidableEq, Repr, Inhabited

/-- The state of a run around a world of type `σ`. -/
structure Runtime (σ : Type) where
  /-- Milliseconds since the start. -/
  elapsed : Nat
  deadline : Option Nat
  stop : Option StopRequest
  /-- What the clock reads; it is set apart from the time that passes in waits. -/
  clock : Instant
  observer : ObserverKind
  events : List LogEvent
  observed : List Observation
  entropy : Entropy
  world : σ

/-- A computation in virtual time that may be given up. -/
abbrev Virtual (σ : Type) := ExceptT Cut (StateM (Runtime σ))

namespace Runtime

variable {σ : Type}

/-- A run at its start. -/
def new (entropy : Entropy) (world : σ) : Runtime σ :=
  { elapsed := 0, deadline := none, stop := none, clock := ⟨0⟩, observer := .record,
    events := [], observed := [], entropy, world }

/-- The instant at which a wait until `target` is stopped, if it is. -/
def stopBefore? (rt : Runtime σ) (target : Nat) : Option Nat :=
  rt.stop.bind fun s =>
    if s.instant < target ∨ (s.instant = target ∧ s.winsTies) then some (max s.instant rt.elapsed)
    else none

/-- The instant at which a wait until `target` overruns the deadline, if it does. -/
def deadlineBefore? (rt : Runtime σ) (target : Nat) : Option Nat :=
  rt.deadline.bind fun d => if d < target then some d else none

/-- What ends a wait until `target` too early, and when. -/
def cutBefore? (rt : Runtime σ) (target : Nat) : Option (Cut × Nat) :=
  match rt.stopBefore? target, rt.deadlineBefore? target with
  | none, none => none
  | some s, none => some (.stop, s)
  | none, some d => some (.deadline, d)
  | some s, some d =>
      if s < d ∨ (s = d ∧ (rt.stop.map StopRequest.winsTies).getD false) then some (.stop, s)
      else some (.deadline, d)

/-- Waits some milliseconds. -/
def wait (ms : Nat) : Virtual σ Unit := fun rt =>
  match rt.cutBefore? (rt.elapsed + ms) with
  | none => (.ok (), { rt with elapsed := rt.elapsed + ms })
  | some (cut, instant) => (.error cut, { rt with elapsed := instant })

/-- Whether a stop request is already due. -/
def isStopped (rt : Runtime σ) : Bool :=
  match rt.stop with
  | none => false
  | some s => s.instant < rt.elapsed || (s.instant = rt.elapsed && s.winsTies)

end Runtime

/-! ## Abilities -/

namespace Virtual

variable {σ : Type}

/-- Reads the world. -/
def world : Virtual σ σ := do return (← get).world

/-- Changes the world. -/
def modifyWorld (f : σ → σ) : Virtual σ Unit :=
  modify fun rt => { rt with world := f rt.world }

/-- Runs a computation; what gave it up, if anything, is kept. -/
def runOn {α : Type} (act : Virtual σ α) (rt : Runtime σ) : Except Cut α × Runtime σ :=
  StateT.run (m := Id) act.run rt

instance : MonadLog (Virtual σ) where
  log event := modify fun rt => { rt with events := rt.events ++ [event] }

instance : MonadObserve (Virtual σ) where
  observe o := modify fun rt =>
    match rt.observer with
    | .record => { rt with observed := rt.observed ++ [o] }
    | .trace => { rt with events := rt.events ++ [o.toEvent] }

instance : MonadPause (Virtual σ) where
  pause := Runtime.wait

instance : MonadDeadline (Virtual σ) where
  within ms act := fun rt =>
    match act { rt with deadline := some (rt.elapsed + ms) } with
    | (.ok value, after) => (.ok (some value), { after with deadline := rt.deadline })
    | (.error .deadline, after) => (.ok none, { after with deadline := rt.deadline })
    | (.error cut, after) => (.error cut, { after with deadline := rt.deadline })

instance : MonadShutdown (Virtual σ) where
  unlessStopped act := fun rt =>
    if rt.isStopped then (.ok none, rt)
    else
      match act rt with
      | (.ok value, after) => (.ok (some value), after)
      | (.error .stop, after) => (.ok none, after)
      | (.error cut, after) => (.error cut, after)

instance : MonadClock (Virtual σ) where
  now := do return (← get).clock

instance : MonadHalt (Virtual σ) where
  halt := throw .overflow

instance : MonadRandom (Virtual σ) where
  freshId := modifyGet fun rt =>
    (rt.entropy.idAt rt.entropy.drawn,
      { rt with entropy := { rt.entropy with drawn := rt.entropy.drawn + 1 } })
  freshToken := modifyGet fun rt =>
    (rt.entropy.tokenAt rt.entropy.drawn,
      { rt with entropy := { rt.entropy with drawn := rt.entropy.drawn + 1 } })
  freshBytes _ := modifyGet fun rt =>
    (Vector.ofFn fun i => rt.entropy.byteAt rt.entropy.drawn i,
      { rt with entropy := { rt.entropy with drawn := rt.entropy.drawn + 1 } })

end Virtual

/-! ## A source of ids and tokens -/

namespace Entropy

/-- Spreads the bits of a number over a word. -/
def scramble (n : UInt64) : UInt64 :=
  let z := (n + 1) * 0x9e3779b97f4a7c15
  let z := (z ^^^ (z >>> 30)) * 0xbf58476d1ce4e5b9
  let z := (z ^^^ (z >>> 27)) * 0x94d049bb133111eb
  z ^^^ (z >>> 31)

/-- The `i`-th word of the `n`-th draw. -/
def word (n i : Nat) : Nat := (scramble (n * 64 + i).toUInt64).toNat

/-- A character of a credential token. -/
def tokenChar (n : Nat) : Char := Credential.alphabet.getD (n % 62) 'A'

/-- The source that the simulations draw from. -/
def spread : Entropy where
  idAt n := Uuid.random (BitVec.ofNat 128 (word n 0 * 0x10000000000000000 + word n 1))
  tokenAt n := String.ofList
    ((List.range Credential.tokenLength).map fun i => tokenChar (word n (i + 2)))
  byteAt n i := (word n (i + 34)).toUInt8
  drawn := 0

end Entropy

end Gatehouse
