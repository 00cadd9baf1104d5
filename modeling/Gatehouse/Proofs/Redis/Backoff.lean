/-
  Gatehouse/Proofs/Redis/Backoff.lean --- how often the client of the cache tries, and when.

  The cache is left open: each call lasts for a while and has any outcome, which may depend
  on all that was asked before.  A run is told by its attempts, each with the state in which
  it begins and the state that it leaves; between two of them there is one warning and one
  pause, and nothing else takes time.  Each pause is found from the one before it, by doubling
  up to a bound.  A pause at the bound is followed by another one at the bound, so all of them
  have a closed form.

  A command and a connection are tried by the same rules.  They differ in the errors that
  may pass and in the time limit of an attempt.

  Main definitions: `pauseAfter`, `CacheTry.Course`, `CachePeer`, `RedisClient.AskedOnce`,
  `RedisClient.LoggedInOnce`.
  Main statements: `attemptRedis_course`, `RedisClient.backs_off`.
-/
import Mathlib.Algebra.Group.Nat.Defs
import Gatehouse.Proofs.Ending
import Gatehouse.Proofs.Waiting
import Gatehouse.Redis.Client

set_option autoImplicit false

namespace Gatehouse

/-! ## Attempts -/

/-- An attempt: the state in which it begins, its outcome and the state that it leaves. -/
structure CacheTry (σ α : Type) where
  before : Runtime σ
  outcome : Except RedisFault α
  after : Runtime σ

/-- The warning about an attempt that failed, before the pause that follows it. -/
def retryWarning (what : String) (limit number : Nat) (e : RedisFault) (pauseMs : Nat) : LogEvent :=
  { level := .warn, source := .cache, fields := []
    message := what ++ s!" (attempt {number}/{limit}): " ++ e.message
      ++ s!". Retrying in {pauseMs}ms..." }

/-- The error about the last attempt. -/
def giveUpError (what : String) (number : Nat) (e : RedisFault) : LogEvent :=
  { level := .error, source := .cache, fields := []
    message := what ++ s!" after {number} attempts: " ++ e.message }

/-- The pause after attempt number `k`, counted from zero, when the first is `pauseMs`. -/
def pauseAfter (pauseMs k : Nat) : Nat := min (pauseMs * 2 ^ k) maxRedisPause

theorem pauseAfter_zero {pauseMs : Nat} (short : pauseMs ≤ maxRedisPause) :
    pauseAfter pauseMs 0 = pauseMs := by
  rw [pauseAfter, Nat.pow_zero, Nat.mul_one, Nat.min_eq_left short]

/-- The pauses after the first one are those of a run that begins with the next pause. -/
theorem pauseAfter_nextRedisPause (pauseMs k : Nat) :
    pauseAfter (nextRedisPause pauseMs) k = pauseAfter pauseMs (k + 1) := by
  have hpos : 0 < 2 ^ k := Nat.two_pow_pos k
  have hpow : pauseMs * 2 ^ (k + 1) = pauseMs * 2 * 2 ^ k := by
    rw [Nat.pow_succ', Nat.mul_assoc]
  rw [pauseAfter, pauseAfter, nextRedisPause, hpow]
  rcases Nat.le_total (pauseMs * 2) maxRedisPause with hle | hge
  · rw [Nat.min_eq_left hle]
  · rw [Nat.min_eq_right hge, Nat.min_eq_right (Nat.le_mul_of_pos_right _ hpos),
      Nat.min_eq_right (Nat.le_trans hge (Nat.le_mul_of_pos_right _ hpos))]

namespace CacheTry

variable {σ α : Type}

/-- Whether the attempts up to number `last`, counted from zero, make up a run that begins in
one state and ends in another.  At most `budget` attempts are made, and `made` others were
made before; `Made` tells of each by its number how it ends. -/
structure Course (what : String) (limit : Nat) (mayPass : RedisFault → Bool)
    (Made : Nat → CacheTry σ α → Prop) (budget made pauseMs : Nat) (tries : Nat → CacheTry σ α)
    (last : Nat) (rt rt' : Runtime σ) : Prop where
  enough : last + 1 ≤ budget
  attempts : ∀ k ≤ last, Made (made + k + 1) (tries k)
  begins : (tries 0).before = rt
  /-- Each attempt but the last fails with an error that may pass, and the next one begins
  when the pause is over. -/
  again : ∀ k < last, ∃ e, (tries k).outcome = .error e ∧ mayPass e = true
    ∧ (tries (k + 1)).before = ((tries k).after.logged
        (retryWarning what limit (made + k + 1) e (pauseAfter pauseMs k))).later
          (pauseAfter pauseMs k)
  /-- The last attempt succeeds, or fails for good, or is the last of the budget. -/
  ends : match (tries last).outcome with
    | .ok _ => rt' = (tries last).after
    | .error e => (mayPass e = false ∨ last + 1 = budget)
        ∧ rt' = (tries last).after.logged (giveUpError what (made + last + 1) e)

/-- An attempt and those after it. -/
def cons (t : CacheTry σ α) (tries : Nat → CacheTry σ α) : Nat → CacheTry σ α
  | 0 => t
  | k + 1 => tries k

namespace Course

variable {what : String} {limit budget made pauseMs : Nat} {mayPass : RedisFault → Bool}
  {Made : Nat → CacheTry σ α → Prop} {t : CacheTry σ α} {rt' : Runtime σ}

theorem succeeded {a : α} (attempt : Made (made + 1) t) (ok : t.outcome = .ok a) :
    Course what limit mayPass Made (budget + 1) made pauseMs (fun _ => t) 0 t.before t.after where
  enough := Nat.le_add_left ..
  attempts k hk := by rwa [Nat.le_zero.1 hk]
  begins := rfl
  again k hk := absurd hk (Nat.not_lt_zero k)
  ends := by rw [ok]

theorem failed {e : RedisFault} (attempt : Made (made + 1) t) (error : t.outcome = .error e)
    (final : mayPass e = false ∨ budget = 0) :
    Course what limit mayPass Made (budget + 1) made pauseMs (fun _ => t) 0 t.before
      (t.after.logged (giveUpError what (made + 1) e)) where
  enough := Nat.le_add_left ..
  attempts k hk := by rwa [Nat.le_zero.1 hk]
  begins := rfl
  again k hk := absurd hk (Nat.not_lt_zero k)
  ends := by
    rw [error]
    exact ⟨final.imp_right fun h => by rw [h], rfl⟩

/-- An attempt that fails with an error that may pass puts the others off by one pause, and
the pauses of a run that begins with the next attempt are the later ones. -/
theorem retried {tries : Nat → CacheTry σ α} {last : Nat} {e : RedisFault}
    (attempt : Made (made + 1) t) (error : t.outcome = .error e) (passes : mayPass e = true)
    (short : pauseMs ≤ maxRedisPause)
    (rest : Course what limit mayPass Made budget (made + 1) (nextRedisPause pauseMs) tries last
      ((t.after.logged (retryWarning what limit (made + 1) e pauseMs)).later pauseMs) rt') :
    Course what limit mayPass Made (budget + 1) made pauseMs (cons t tries) (last + 1) t.before
      rt' where
  enough := Nat.succ_le_succ rest.enough
  attempts k hk := by
    cases k with
    | zero => exact attempt
    | succ k =>
      have hmade := rest.attempts k (Nat.le_of_succ_le_succ hk)
      rwa [Nat.add_right_comm made 1 k] at hmade
  begins := rfl
  again k hk := by
    cases k with
    | zero =>
      refine ⟨e, error, passes, ?_⟩
      rw [pauseAfter_zero short]
      exact rest.begins
    | succ k =>
      have hagain := rest.again k (Nat.lt_of_succ_lt_succ hk)
      rwa [pauseAfter_nextRedisPause, Nat.add_right_comm made 1 k] at hagain
  ends := by
    have hends := rest.ends
    rw [Nat.add_right_comm made 1 last] at hends
    cases houtcome : (tries last).outcome with
    | ok a =>
      rw [houtcome] at hends
      rw [cons, houtcome]
      exact hends
    | error e' =>
      rw [houtcome] at hends
      rw [cons, houtcome]
      exact ⟨hends.1.imp_right (congrArg Nat.succ), hends.2⟩

end Course

end CacheTry

section

variable {σ α : Type} (what : String) (limit : Nat) (mayPass : RedisFault → Bool)
  {attempt : Nat → Virtual σ (Except RedisFault α)} {Made : Nat → CacheTry σ α → Prop}

/-- What comes between a failed attempt and the next one: a warning and a pause. -/
theorem runOn_retry {rt : Runtime σ} (undisturbed : rt.Undisturbed) (number : Nat) (e : RedisFault)
    (pauseMs : Nat) (next : Virtual σ (Except RedisFault α)) :
    Virtual.runOn (do
        logWarn .cache (what ++ s!" (attempt {number}/{limit}): " ++ e.message
          ++ s!". Retrying in {pauseMs}ms...") []
        pause pauseMs
        next) rt
      = next.runOn ((rt.logged (retryWarning what limit number e pauseMs)).later pauseMs) := by
  have hlog : Virtual.runOn (logWarn .cache (what ++ s!" (attempt {number}/{limit}): " ++ e.message
      ++ s!". Retrying in {pauseMs}ms...") []) rt
        = (.ok (), rt.logged (retryWarning what limit number e pauseMs)) := rfl
  rw [Virtual.runOn_bind, hlog]
  dsimp only
  rw [Virtual.runOn_bind, Virtual.runOn_pause (undisturbed.logged _)]

/-- Attempts that each come to an end make up a run. -/
theorem attemptRedis_course
    (once : ∀ number rt, rt.Undisturbed → ∃ t : CacheTry σ α, t.before = rt ∧ Made number t
      ∧ (attempt number).runOn rt = (.ok t.outcome, t.after) ∧ t.after.Undisturbed)
    (left made pauseMs : Nat) (short : pauseMs ≤ maxRedisPause) {rt : Runtime σ}
    (undisturbed : rt.Undisturbed) :
    ∃ tries last rt', Virtual.runOn (attemptRedis what limit mayPass attempt left made pauseMs) rt
        = (.ok (tries last).outcome, rt')
      ∧ CacheTry.Course what limit mayPass Made (left + 1) made pauseMs tries last rt rt' := by
  -- The budget shrinks by one while the pause and the number of the attempt move on.
  induction left generalizing made pauseMs rt with
  | zero =>
    obtain ⟨t, rfl, hmade, hrun, -⟩ := once (made + 1) rt undisturbed
    rw [attemptRedis, Virtual.runOn_bind, hrun]
    cases houtcome : t.outcome with
    | ok a => exact ⟨fun _ => t, 0, _, by rw [houtcome]; rfl, .succeeded hmade houtcome⟩
    | error e => exact ⟨fun _ => t, 0, _, by rw [houtcome]; rfl, .failed hmade houtcome (.inr rfl)⟩
  | succ left ih =>
    obtain ⟨t, rfl, hmade, hrun, hafter⟩ := once (made + 1) rt undisturbed
    rw [attemptRedis, Virtual.runOn_bind, hrun]
    cases houtcome : t.outcome with
    | ok a => exact ⟨fun _ => t, 0, _, by rw [houtcome]; rfl, .succeeded hmade houtcome⟩
    | error e =>
      dsimp only
      cases hpasses : mayPass e with
      | false =>
        exact ⟨fun _ => t, 0, _, by rw [houtcome]; rfl, .failed hmade houtcome (.inl hpasses)⟩
      | true =>
        have hwarned := hafter.logged (retryWarning what limit (made + 1) e pauseMs)
        obtain ⟨tries, last, rt', hrest, hcourse⟩ := ih (made + 1) (nextRedisPause pauseMs)
          (Nat.min_le_right ..) (hwarned.later pauseMs)
        refine ⟨CacheTry.cons t tries, last + 1, rt', ?_,
          hcourse.retried hmade houtcome hpasses short⟩
        rw [if_pos rfl]
        exact (runOn_retry what limit hafter (made + 1) e pauseMs _).trans hrest

end

/-! ## A cache -/

/-- How a call is answered: after some milliseconds, with an outcome. -/
structure CacheTurn (α : Type) where
  lasts : Nat
  outcome : Except RedisFault α

/-- A cache of which nothing is known. -/
structure CachePeer where
  State : Type
  dial : State → RedisPlace → CacheTurn Unit × State
  ask : State → RedisCommand → CacheTurn RedisReply × State

/-- A cache, as the calls so far have left it. -/
structure CacheLine (P : CachePeer) where
  state : P.State

namespace CacheLine

variable {P : CachePeer} {α : Type}

/-- A run with the cache. -/
abbrev Run (P : CachePeer) := Virtual (CacheLine P)

/-- A call, from the question to the answer. -/
def call (next : P.State → CacheTurn α × P.State) : Run P (Except RedisFault α) := do
  let turn ← Virtual.access fun w => ((next w.state).1, { state := (next w.state).2 })
  pause turn.lasts
  pure turn.outcome

instance : MonadRedis (Run P) where
  dial place := call fun s => P.dial s place
  ask command := call fun s => P.ask s command

/-- The state when a call is answered. -/
def answered (next : P.State → CacheTurn α × P.State) (rt : Runtime (CacheLine P)) :
    Runtime (CacheLine P) :=
  { rt with
    elapsed := rt.elapsed + (next rt.world.state).1.lasts
    world := { state := (next rt.world.state).2 } }

theorem runOn_call (next : P.State → CacheTurn α × P.State) {rt : Runtime (CacheLine P)}
    (undisturbed : rt.Undisturbed) :
    Virtual.runOn (call next) rt
      = (.ok (next rt.world.state).1.outcome, answered next rt) := by
  have hasked : Runtime.Undisturbed
      ({ rt with world := ⟨(next rt.world.state).2⟩ } : Runtime (CacheLine P)) :=
    ⟨undisturbed.deadline, undisturbed.stop⟩
  have haccess : Virtual.runOn (Virtual.access fun w : CacheLine P =>
      ((next w.state).1, { state := (next w.state).2 })) rt
        = (.ok (next rt.world.state).1, { rt with world := ⟨(next rt.world.state).2⟩ }) := rfl
  rw [call, Virtual.runOn_bind, haccess]
  dsimp only
  rw [Virtual.runOn_bind, Virtual.runOn_pause hasked]
  rfl

theorem patient_access (f : CacheLine P → α × CacheLine P) : Virtual.Patient (Virtual.access f) :=
  .of_instant fun rt =>
    ⟨(f rt.world).1, { rt with world := (f rt.world).2 }, rfl, rfl, rfl, rfl, rfl⟩

theorem patient_call (next : P.State → CacheTurn α × P.State) : Virtual.Patient (call next) :=
  .bind (patient_access _) fun _ => .bind (.pause _) fun _ => .pure _

theorem patient_dial (place : RedisPlace) :
    Virtual.Patient (MonadRedis.dial place : Run P (Except RedisFault Unit)) := patient_call _

theorem patient_ask (command : RedisCommand) :
    Virtual.Patient (MonadRedis.ask command : Run P (Except RedisFault RedisReply)) :=
  patient_call _

end CacheLine

namespace RedisClient

open CacheLine (Run)

variable {P : CachePeer} {α : Type}

/-- What follows a command, whatever the reply. -/
theorem patient_asking {command : RedisCommand}
    {next : Except RedisFault RedisReply → ExceptT RedisFault (Run P) Unit}
    (patient : ∀ reply, Virtual.Patient (next reply).run) :
    Virtual.Patient (ExceptT.lift (MonadRedis.ask command) >>= next).run := by
  refine .attempt_bind ?_ patient
  rw [ExceptT.run_lift]
  exact .bind (CacheLine.patient_ask command) fun _ => .pure _

theorem patient_mustSucceed (command : RedisCommand) (fault : RedisFault) :
    Virtual.Patient (mustSucceed command fault : ExceptT RedisFault (Run P) Unit).run := by
  refine patient_asking fun reply => ?_
  split
  · exact .pure _
  · exact .pure _

theorem patient_authenticate (user : Option String) (password : String) :
    Virtual.Patient (authenticate user password : ExceptT RedisFault (Run P) Unit).run := by
  refine patient_asking fun reply => ?_
  rcases reply with f | reply
  · dsimp only
    split
    · exact patient_mustSucceed _ _
    · exact .pure _
  · cases reply with
    | okay => exact .pure _
    | _ => exact .pure _

theorem patient_login (a : RedisAddress) :
    Virtual.Patient (login a : ExceptT RedisFault (Run P) Unit).run := by
  have hchoose : Virtual.Patient (if a.database = 0 then pure () else
      mustSucceed (.select a.database) .badDatabase : ExceptT RedisFault (Run P) Unit).run := by
    split
    · exact .pure _
    · exact patient_mustSucceed _ _
  unfold login
  refine .attempt_bind ?_ fun u => ?_
  · exact CacheLine.patient_dial a.place
  dsimp only
  split
  · exact hchoose
  · exact .attempt_bind (patient_authenticate _ _) fun _ => hchoose

/-! ## Single attempts -/

/-- A command that is sent once: it lasts until the answer, and what is read in that is the
outcome. -/
structure AskedOnce (command : RedisCommand) (read : RedisReply → Except RedisFault α)
    (t : CacheTry (CacheLine P) α) : Prop where
  outcome : t.outcome = (P.ask t.before.world.state command).1.outcome.bind read
  after : t.after = CacheLine.answered (fun s => P.ask s command) t.before

/-- The state in which attempt number `number` to connect has been announced. -/
def announced (number : Nat) (rt : Runtime (CacheLine P)) : Runtime (CacheLine P) :=
  rt.logged
    { level := .debug, source := .cache, fields := []
      message := s!"Attempting to connect to Redis (attempt {number})" }

/-- An attempt to connect, which is cut at the time limit: it ends as the login does if that
is over by then. -/
inductive LoggedInOnce (c : RedisClient) (a : RedisAddress) (number : Nat)
    (t : CacheTry (CacheLine P) Unit) : Prop where
  | inTime
      (ran : Virtual.runOn (login a).run (announced number t.before) = (.ok t.outcome, t.after))
      (short : t.after.elapsed ≤ t.before.elapsed + c.config.connectionTimeout * 1000)
  | cut (timeout : t.outcome = .error .timeout)
      (due : t.after.elapsed = t.before.elapsed + c.config.connectionTimeout * 1000)
      (late : ∀ outcome after, Virtual.runOn (login a).run (announced number t.before)
          = (.ok outcome, after) →
        t.before.elapsed + c.config.connectionTimeout * 1000 < after.elapsed)

variable {rt : Runtime (CacheLine P)}

theorem exists_askedOnce (command : RedisCommand) (read : RedisReply → Except RedisFault α)
    (undisturbed : rt.Undisturbed) :
    ∃ t : CacheTry (CacheLine P) α, t.before = rt ∧ AskedOnce command read t
      ∧ Virtual.runOn (askOnce command read) rt = (.ok t.outcome, t.after)
      ∧ t.after.Undisturbed := by
  let next := fun s => P.ask s command
  have hask : Virtual.runOn (MonadRedis.ask command : Run P (Except RedisFault RedisReply)) rt
      = (.ok (next rt.world.state).1.outcome, CacheLine.answered next rt) :=
    CacheLine.runOn_call next undisturbed
  refine ⟨⟨rt, (next rt.world.state).1.outcome.bind read, CacheLine.answered next rt⟩, rfl,
    ⟨rfl, rfl⟩, ?_, undisturbed.deadline, undisturbed.stop⟩
  rw [askOnce, Virtual.runOn_bind, hask]
  rfl

theorem exists_loggedInOnce (c : RedisClient) (a : RedisAddress) (number : Nat)
    (undisturbed : rt.Undisturbed) :
    ∃ t : CacheTry (CacheLine P) Unit, t.before = rt ∧ LoggedInOnce c a number t
      ∧ Virtual.runOn (c.loginInTime a number) rt = (.ok t.outcome, t.after)
      ∧ t.after.Undisturbed := by
  have hannounced : (announced number rt).Undisturbed := undisturbed.logged _
  have hlog : Virtual.runOn (logDebug .cache
      s!"Attempting to connect to Redis (attempt {number})" [] : Run P Unit) rt
        = (.ok (), announced number rt) := rfl
  obtain ⟨result, rt', hrun, helapses, hshort, hend⟩ :=
    (patient_login (P := P) a).within_cases hannounced.deadline (c.config.connectionTimeout * 1000)
  have hafter : rt'.Undisturbed := hannounced.elapses helapses
  rw [loginInTime, Virtual.runOn_bind, hlog]
  dsimp only
  rw [Virtual.runOn_bind, hrun]
  rcases hend with ⟨outcome, rfl, hlogin⟩ | ⟨rfl, hdue, hlate⟩ | ⟨-, hstopped⟩
  · exact ⟨⟨rt, outcome, rt'⟩, rfl, .inTime hlogin hshort, rfl, hafter⟩
  · exact ⟨⟨rt, .error .timeout, rt'⟩, rfl, .cut rfl hdue hlate, rfl, hafter⟩
  · exact absurd hstopped hannounced.not_stoppedAt

/-! ## Whole runs -/

/-- The state in which the client is about to connect. -/
def opening (c : RedisClient) (rt : Runtime (CacheLine P)) : Runtime (CacheLine P) :=
  rt.logged
    { level := .info, source := .cache, fields := []
      message := "Creating Redis client with URL: " ++ maskUrl c.config.url }

/-- The state in which the client has connected, or has not. -/
def opened (outcome : Except RedisFault Unit) (rt : Runtime (CacheLine P)) :
    Runtime (CacheLine P) :=
  match outcome with
  | .ok () => rt.logged
      { level := .info, source := .cache, fields := []
        message := "Redis client created successfully" }
  | .error _ => rt

/-- A command is sent at least once and at most as often as the client tries, up to the
first answer that is no error, or an error that does not pass; the last answer is the result.
Between two attempts there is one pause: the first is the one that was set, each of the
others twice as long as the one before it, and none is longer than the bound.  To connect
is tried by the same rules, but any error may pass, and an attempt is cut at the time limit. -/
theorem backs_off (c : RedisClient) (short : c.delay ≤ maxRedisPause)
    (undisturbed : rt.Undisturbed) :
    (∀ (α : Type) (command : RedisCommand) (read : RedisReply → Except RedisFault α),
      ∃ tries last rt',
        Virtual.runOn (c.execute command read : ExceptT AdapterFault (Run P) α).run rt
          = (.ok ((tries last).outcome.mapError fun f => .cache f.message), rt')
        ∧ CacheTry.Course "Redis operation failed" c.maxAttempts RedisFault.isTransient
            (fun _ => AskedOnce command read) (max 1 c.maxAttempts) 0 c.delay tries last rt rt')
      ∧ ∀ a, RedisAddress.parse c.config.url = .ok a → ∃ tries last rt',
        Virtual.runOn (c.connect : ExceptT AdapterFault (Run P) Unit).run rt
          = (.ok ((tries last).outcome.mapError fun f => .cache f.message),
              opened (tries last).outcome rt')
        ∧ CacheTry.Course "Failed to connect to Redis" c.maxAttempts (fun _ => true)
            (c.LoggedInOnce a) (max 1 c.maxAttempts) 0 c.delay tries last (c.opening rt) rt' := by
  have hbudget : c.maxAttempts - 1 + 1 = max 1 c.maxAttempts := by omega
  constructor
  · intro α command read
    obtain ⟨tries, last, rt', hrun, hcourse⟩ := attemptRedis_course "Redis operation failed"
      c.maxAttempts RedisFault.isTransient
      (fun _ _ undisturbed => exists_askedOnce command read undisturbed)
      (c.maxAttempts - 1) 0 c.delay short undisturbed
    rw [hbudget] at hcourse
    refine ⟨tries, last, rt', ?_, hcourse⟩
    rw [execute, ExceptT.run_mk, Virtual.runOn_bind, hrun]
    rfl
  · intro a hparse
    have hstart : (c.opening rt).Undisturbed := undisturbed.logged _
    obtain ⟨tries, last, rt', hrun, hcourse⟩ := attemptRedis_course "Failed to connect to Redis"
      c.maxAttempts (fun _ => true)
      (fun number _ undisturbed => exists_loggedInOnce c a number undisturbed)
      (c.maxAttempts - 1) 0 c.delay short hstart
    rw [hbudget] at hcourse
    refine ⟨tries, last, rt', ?_, hcourse⟩
    have hopening : Virtual.runOn (logInfo .cache
        ("Creating Redis client with URL: " ++ maskUrl c.config.url) [] : Run P Unit) rt
          = (.ok (), c.opening rt) := rfl
    unfold connect
    rw [hparse, Virtual.runOn_attempt_bind, Virtual.runOn_attempt_lift, hopening]
    dsimp only
    rw [Virtual.runOn_attempt_bind, Virtual.runOn_attempt_lift, hrun]
    dsimp only
    cases (tries last).outcome with
    | ok u => rfl
    | error e => rfl

/-- A cache that is slow to answer at first, and is still loading when it is asked for the
first two times. -/
def loadingCache : CachePeer where
  State := Nat
  dial calls _ := ({ lasts := if calls = 0 then 7000 else 1, outcome := .ok () }, calls + 1)
  ask calls _ := ({ lasts := 2
                    outcome := if calls < 2 then .error (.server .busyLoading none)
                      else .ok (.status "PONG") }, calls + 1)

/-- A client that tries three times and first pauses for four seconds. -/
def patientClient : RedisClient := { config := .default, maxAttempts := 3, delay := 4000 }

/-- A state in which nobody has been asked anything. -/
def unasked : Runtime (CacheLine loadingCache) := .new .counting { state := (0 : Nat) }

/-- Of the three attempts at a command two fail, and the second pause is at the bound; of those
to connect the first is cut. -/
theorem backs_off_loading :
    patientClient.delay ≤ maxRedisPause ∧ unasked.Undisturbed
      ∧ (∃ tries last rt',
        Virtual.runOn (patientClient.execute .ping RedisReply.string :
            ExceptT AdapterFault (Run loadingCache) String).run unasked
          = (.ok ((tries last).outcome.mapError fun f => .cache f.message), rt')
        ∧ CacheTry.Course "Redis operation failed" 3 RedisFault.isTransient
            (fun _ => AskedOnce .ping RedisReply.string) (max 1 3) 0 4000 tries last unasked rt'
        ∧ rt'.elapsed = 2 + 4000 + 2 + 5000 + 2)
      ∧ ∃ a, RedisAddress.parse patientClient.config.url = .ok a ∧ ∃ tries last rt',
        Virtual.runOn (patientClient.connect :
            ExceptT AdapterFault (Run loadingCache) Unit).run unasked
          = (.ok ((tries last).outcome.mapError fun f => .cache f.message),
              opened (tries last).outcome rt')
        ∧ CacheTry.Course "Failed to connect to Redis" 3 (fun _ => true)
            (patientClient.LoggedInOnce a) (max 1 3) 0 4000 tries last
            (patientClient.opening unasked) rt'
        ∧ (opened (tries last).outcome rt').elapsed = 5000 + 4000 + 1 := by
  have hshort : patientClient.delay ≤ maxRedisPause := by decide
  have hunasked : unasked.Undisturbed := ⟨rfl, rfl⟩
  have hparse : RedisAddress.parse patientClient.config.url = .ok
      { place := .host "localhost" 6379, database := 0, user := none, password := none } := rfl
  have hlaw := backs_off patientClient hshort hunasked
  have hasking : (Virtual.runOn (patientClient.execute .ping RedisReply.string :
      ExceptT AdapterFault (Run loadingCache) String).run unasked).2.elapsed
        = 2 + 4000 + 2 + 5000 + 2 := by
    decide +kernel
  have hconnecting : (Virtual.runOn (patientClient.connect :
      ExceptT AdapterFault (Run loadingCache) Unit).run unasked).2.elapsed = 5000 + 4000 + 1 := by
    decide +kernel
  obtain ⟨tries, last, rt', hrun, hcourse⟩ := hlaw.1 String .ping RedisReply.string
  obtain ⟨tries', last', rt'', hrun', hcourse'⟩ := hlaw.2 _ hparse
  rw [hrun] at hasking
  rw [hrun'] at hconnecting
  exact ⟨hshort, hunasked, ⟨tries, last, rt', hrun, hcourse, hasking⟩, _, hparse,
    tries', last', rt'', hrun', hcourse', hconnecting⟩

end RedisClient

end Gatehouse
