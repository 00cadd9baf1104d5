/-
  Gatehouse/Proofs/Redis/Server.lean --- the client before a cache that keeps its word.

  The server keeps a key for the seconds that it was told to and says truthfully whether
  it holds one.  The way to it is left open: how long a command takes to arrive, and
  whether an error comes back in its place, may depend on all that was sent before.  A
  command that is answered by an error has no effect.

  Trying again sends the same command once more, so a call of the client sends one
  command some number of times, and at most the last of them has an effect.

  Main definitions: `RedisLink`, `RedisServer`, `RedisServer.Asked`.
  Main statements: `RedisServer.ends_setFor`, `RedisServer.ends_holds`.
-/
import Gatehouse.Proofs.Ending
import Gatehouse.Proofs.Session.Gate
import Gatehouse.Proofs.Store.Table
import Gatehouse.Redis.Client

set_option autoImplicit false

namespace Gatehouse

/-! ## The server -/

/-- What becomes of a command on its way to the server and back. -/
structure Passage where
  /-- The nanoseconds that it takes to arrive. -/
  nanos : Nat
  /-- The error that is answered, if one is. -/
  fault : Option RedisFault
  deriving DecidableEq, Repr, Inhabited

/-- The way to a server. -/
structure RedisLink where
  State : Type
  carry : State → RedisCommand → Passage × State

/-- A value that is kept, and the point in time from which on it is no longer. -/
structure Lease where
  value : String
  ends : Instant
  deriving DecidableEq, Repr, Inhabited

/-- A server, with the way to it. -/
structure RedisServer (L : RedisLink) where
  link : L.State
  /-- What the clock of the server reads. -/
  time : Instant
  keys : Table String Lease
  /-- The commands that were sent, in order. -/
  sent : List RedisCommand

namespace RedisServer

variable {L : RedisLink}

/-- Whether a key is held. -/
def isHeld (w : RedisServer L) (key : String) : Bool :=
  (w.keys.get? key).any fun l => w.time.nanos < l.ends.nanos

/-- What a command does that arrives. -/
def serve (w : RedisServer L) : RedisCommand → RedisReply × RedisServer L
  | .setFor key value seconds =>
      (.okay, { w with
        keys := w.keys.insert key ⟨value, w.time.later (Ttl.ofSeconds seconds).nanos⟩ })
  | .holds key => (.number (if w.isHeld key then 1 else 0), w)
  | .ping => (.status "PONG", w)
  | .auth _ _ | .select _ => (.okay, w)

/-- The server when a command has come to the end of its way. -/
def reached (w : RedisServer L) (command : RedisCommand) : RedisServer L :=
  { w with
    link := (L.carry w.link command).2
    time := w.time.later (L.carry w.link command).1.nanos
    sent := w.sent ++ [command] }

/-- What is answered to a command that is sent, and what it leaves behind. -/
def ask (w : RedisServer L) (command : RedisCommand) :
    Except RedisFault RedisReply × RedisServer L :=
  match (L.carry w.link command).1.fault with
  | some fault => (.error fault, w.reached command)
  | none => (.ok ((w.reached command).serve command).1, ((w.reached command).serve command).2)

/-- A run of the client. -/
abbrev Run (L : RedisLink) := Virtual (RedisServer L)

instance : MonadRedis (Run L) where
  dial _ := pure (.ok ())
  ask command := Virtual.access fun w => w.ask command

/-! ## Sending a command again -/

/-- Whether all that happened is that a command was sent some number of times, and what
it does about the keys. -/
structure Asked (command : RedisCommand) (w w' : RedisServer L) : Prop where
  time : w.time.nanos ≤ w'.time.nanos
  sent : ∃ n, w'.sent = w.sent ++ List.replicate n command

/-- Whether a command was sent and had no effect. -/
structure Unheard (command : RedisCommand) (w w' : RedisServer L) : Prop
    extends Asked command w w' where
  keys : w'.keys = w.keys

variable {command : RedisCommand} {w w₁ w₂ : RedisServer L}

namespace Asked

theorem refl (command : RedisCommand) (w : RedisServer L) : Asked command w w where
  time := Int.le_refl _
  sent := ⟨0, by rw [List.replicate_zero, List.append_nil]⟩

theorem reached (command : RedisCommand) (w : RedisServer L) :
    Asked command w (w.reached command) where
  time := Int.le_add_of_nonneg_right (Int.natCast_nonneg _)
  sent := ⟨1, rfl⟩

theorem trans (h : Asked command w w₁) (h₁ : Asked command w₁ w₂) : Asked command w w₂ := by
  obtain ⟨n, hn⟩ := h.sent
  obtain ⟨n₁, hn₁⟩ := h₁.sent
  refine ⟨Int.le_trans h.time h₁.time, n + n₁, ?_⟩
  rw [hn₁, hn, List.append_assoc, List.replicate_append_replicate]

end Asked

theorem Unheard.refl (command : RedisCommand) (w : RedisServer L) : Unheard command w w :=
  ⟨.refl command w, rfl⟩

/-- What an attempt leads to from a server that no earlier attempt has reached. -/
theorem ends_askOnce {α : Type} {read : RedisReply → Except RedisFault α}
    (reads : ∀ w' : RedisServer L, ∃ a, read (w'.serve command).1 = .ok a)
    (h : Unheard command w w₁) :
    Virtual.Ends (RedisClient.askOnce command read : Run L (Except RedisFault α)) w₁
      (fun result w' => match result with
        | .ok a => ∃ w₂, Unheard command w w₂ ∧ w' = (w₂.serve command).2
            ∧ read (w₂.serve command).1 = .ok a
        | .error _ => Unheard command w w')
      (fun _ w' => Unheard command w w') := by
  have hreached : Unheard command w (w₁.reached command) :=
    ⟨h.toAsked.trans (.reached command w₁), h.keys⟩
  refine .bind (.access ?_)
  rw [ask]
  cases (L.carry w₁.link command).1.fault with
  | some fault => exact .pure hreached
  | none =>
    obtain ⟨a, ha⟩ := reads (w₁.reached command)
    refine .pure ?_
    dsimp only [Except.bind]
    rw [ha]
    exact ⟨_, hreached, rfl, ha⟩

end RedisServer

/-! ## Trying again -/

section

variable {σ α : Type} {attempt : Nat → Virtual σ (Except RedisFault α)} {R : Cut → σ → Prop}
  (Tried : σ → Prop) (Q : α → σ → Prop)

/-- Giving up changes nothing. -/
theorem ends_giveUpRedis {what : String} {made : Nat} {e : RedisFault}
    {Q : Except RedisFault α → σ → Prop} {w : σ} (h : Q (.error e) w) :
    Virtual.Ends (giveUpRedis what made e) w Q R := by
  unfold giveUpRedis
  apply Virtual.Ends.bind
  apply Virtual.Ends.log
  exact .pure h

/-- What a failed attempt leads to is carried from each to the next. -/
theorem ends_attemptRedis (what : String) (limit : Nat) (mayPass : RedisFault → Bool)
    (once : ∀ made w, Tried w → Virtual.Ends (attempt made) w (fun result w' => match result with
      | .ok a => Q a w'
      | .error _ => Tried w') R)
    (cut : ∀ w c, Tried w → R c w) :
    ∀ (left made pauseMs : Nat) (w : σ), Tried w →
      Virtual.Ends (attemptRedis what limit mayPass attempt left made pauseMs) w
        (fun result w' => match result with
          | .ok a => Q a w'
          | .error _ => Tried w') R := by
  intro left
  induction left with
  | zero =>
    intro made pauseMs w tried
    rw [attemptRedis]
    refine .bind ((once _ w tried).mono ?_ fun _ _ h => h)
    intro result w' h
    cases result with
    | ok a => exact .pure h
    | error e => exact ends_giveUpRedis h
  | succ left ih =>
    intro made pauseMs w tried
    rw [attemptRedis]
    refine .bind ((once _ w tried).mono ?_ fun _ _ h => h)
    intro result w' h
    cases result with
    | ok a => exact .pure h
    | error e =>
      dsimp only
      split
      · refine .bind (.log (.bind (.pause ?_ fun c _ => cut _ c h)))
        exact ih _ _ w' h
      · exact ends_giveUpRedis h

end

namespace RedisServer

variable {L : RedisLink} {command : RedisCommand} (c : RedisClient) (w : RedisServer L)

/-- A call of the client has an effect exactly when it is answered, and then that of its
command, once. -/
theorem ends_execute {α : Type} {read : RedisReply → Except RedisFault α}
    (reads : ∀ w' : RedisServer L, ∃ a, read (w'.serve command).1 = .ok a) :
    Virtual.Ends (c.execute command read : ExceptT AdapterFault (Run L) α).run w
      (fun result w' => match result with
        | .ok a => ∃ w₁, Unheard command w w₁ ∧ w' = (w₁.serve command).2
            ∧ read (w₁.serve command).1 = .ok a
        | .error _ => Unheard command w w')
      (fun _ w' => Unheard command w w') := by
  rw [RedisClient.execute, ExceptT.run_mk]
  refine .bind ((ends_attemptRedis (Unheard command w) _ _ _ _ (fun _ w₁ h => ends_askOnce reads h)
    (fun _ _ h => h) _ _ _ w (.refl command w)).mono ?_ fun _ _ h => h)
  intro result w' h
  cases result with
  | ok a => exact .pure h
  | error e => exact .pure h

/-- Keeping a value: the key is held from the time of the answer on. -/
theorem ends_setFor (key value : String) (seconds : Nat) :
    Virtual.Ends (c.setFor key value seconds : ExceptT AdapterFault (Run L) Unit).run w
      (fun result w' => Asked (.setFor key value seconds) w w' ∧ w'.keys = match result with
        | .ok () => w.keys.insert key ⟨value, w'.time.later (Ttl.ofSeconds seconds).nanos⟩
        | .error _ => w.keys)
      (fun _ w' => Unheard (.setFor key value seconds) w w') := by
  refine (ends_execute c w fun _ => ⟨(), rfl⟩).mono ?_ fun _ _ h => h
  intro result w' h
  cases result with
  | ok a =>
    obtain ⟨w₁, hunheard, rfl, -⟩ := h
    refine ⟨⟨hunheard.time, hunheard.sent⟩, ?_⟩
    rw [← hunheard.keys]
    rfl
  | error e => exact ⟨h.toAsked, h.keys⟩

/-- Asking for a key: the answer is true at the time at which it is given. -/
theorem ends_holds (key : String) :
    Virtual.Ends (c.holds key : ExceptT AdapterFault (Run L) Bool).run w
      (fun result w' => Unheard (.holds key) w w' ∧ ∀ b, result = .ok b → b = w'.isHeld key)
      (fun _ w' => Unheard (.holds key) w w') := by
  unfold RedisClient.holds
  refine (ends_execute c w (fun _ => ⟨_, rfl⟩ : ∀ w' : RedisServer L,
    ∃ a, RedisReply.flag (w'.serve (.holds key)).1 = .ok a)).mono ?_ fun _ _ h => h
  intro result w' h
  cases result with
  | ok a =>
    obtain ⟨w₁, hunheard, hw, hread⟩ := h
    obtain rfl : w' = w₁ := hw
    refine ⟨hunheard, ?_⟩
    rintro b ⟨⟩
    have hflag : a = decide ((if w'.isHeld key then (1 : Int) else 0) ≠ 0) :=
      (Except.ok.inj hread).symm
    rw [hflag]
    cases w'.isHeld key with
    | true => rfl
    | false => rfl
  | error e => exact ⟨h, nofun⟩

end RedisServer

end Gatehouse
