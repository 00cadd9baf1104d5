/-
  Gatehouse/Proofs/Redis/Denying.lean --- what the denylist in the cache answers.

  A denial is kept under the digest of its token, for a length of time that is rounded
  up to whole seconds.  The keys of the cache are at all times those of the last denials,
  one for each digest: whatever a call sends, and however often, either its last command
  is answered and has its effect once, or nothing has changed.

  Main definitions: `Denial.lastAlike?`, `DenylistRun`.
  Main statements: `RedisClient.digestKey_inj`, `DenylistRun.keeps`,
  `DenylistRun.refines`.
-/
import Gatehouse.Proofs.Redis.Server
import Gatehouse.Proofs.Text.Identifiers
import Gatehouse.Redis.Denylist

set_option autoImplicit false

namespace Gatehouse

/-! ## Keys -/

/-- The digest of a token. -/
def tokenDigest (token : String) : List UInt8 := Sha256.hash (Utf8.bytes token)

namespace RedisClient

/-- The key of a digest in the denylist, with the common prefix. -/
def digestKey (c : RedisClient) (digest : List UInt8) : String :=
  c.key (denylistMark ++ String.ofList (Hex.encode digest))

theorem append_left_cancel {front s t : String} (h : front ++ s = front ++ t) : s = t := by
  have hchars : (front ++ s).toList = (front ++ t).toList := congrArg String.toList h
  rw [String.toList_append, String.toList_append] at hchars
  exact String.toList_inj.1 (List.append_cancel_left hchars)

/-- Digests that share a key are the same, whatever the prefix. -/
theorem digestKey_inj {c : RedisClient} {a b : List UInt8} :
    c.digestKey a = c.digestKey b ↔ a = b := by
  constructor
  · intro h
    have hunprefixed : denylistMark ++ String.ofList (Hex.encode a)
        = denylistMark ++ String.ofList (Hex.encode b) := by
      unfold digestKey key CacheConfig.prefixed at h
      split at h
      · exact append_left_cancel h
      · exact h
    have hdigits := String.ofList_injective (append_left_cancel hunprefixed)
    exact Hex.encode_inj.1 hdigits
  · exact congrArg c.digestKey

/-- Of a token only its digest is in its key. -/
theorem tokenKey_inj {c : RedisClient} {token token' : String} :
    c.tokenKey token = c.tokenKey token' ↔ tokenDigest token = tokenDigest token' :=
  digestKey_inj

end RedisClient

/-! ## Lengths of time -/

namespace Ttl

/-- A length of time, rounded up to whole seconds. -/
def ceil (t : Ttl) : Ttl := .ofSeconds ((t.nanos + 999999999) / 1000000000)

/-- Rounding never shortens. -/
theorem le_ceil (t : Ttl) : t.nanos ≤ t.ceil.nanos := by
  simp only [ceil, ofSeconds]
  omega

/-- The seconds for which a key is kept are those of the length of time, rounded up, as
long as they are a number of 64 bits. -/
theorem ofSeconds_secondsUp {t : Ttl} (short : t.nanos < 2 ^ 63 * 1000000000) :
    ofSeconds t.secondsUp = t.ceil := by
  simp only [ofSeconds, secondsUp, seconds, ceil, mk.injEq]
  split
  · omega
  · omega

end Ttl

/-! ## Denials -/

/-- The last denial of a token with the same digest. -/
def Denial.lastAlike? (token : String) (denials : List Denial) : Option Denial :=
  denials.reverse.find? fun d => tokenDigest d.token = tokenDigest token

theorem Denial.lastAlike?_concat (token : String) (denials : List Denial) (d : Denial) :
    lastAlike? token (denials ++ [d])
      = if tokenDigest d.token = tokenDigest token then some d else lastAlike? token denials := by
  rw [lastAlike?, List.reverse_concat, List.find?_cons]
  by_cases h : tokenDigest d.token = tokenDigest token
  · simp [h]
  · simp [h, lastAlike?]

/-! ## Calls -/

namespace RedisServer

variable {L : RedisLink} (c : RedisClient) (token : String) (rt : Runtime (RedisServer L))

/-- What denying a token comes to. -/
def put (ttl : Ttl) : Except Cut (Except Failure Unit) × Runtime (RedisServer L) :=
  Virtual.runOn (c.deny token ttl : ExceptT Failure (Run L) Unit).run rt

/-- What asking for a token comes to. -/
def query : Except Cut (Except Failure Bool) × Runtime (RedisServer L) :=
  Virtual.runOn (c.denies token : ExceptT Failure (Run L) Bool).run rt

/-- The command that denies a token. -/
def putCommand (ttl : Ttl) : RedisCommand :=
  .setFor (c.digestKey (tokenDigest token)) "1" ttl.secondsUp

/-- The command that asks for a token. -/
def queryCommand : RedisCommand := .holds (c.digestKey (tokenDigest token))

/-- An empty length of time is refused before anything is sent. -/
theorem put_zero : ∃ e, put c token rt ⟨0⟩ = (.ok (.error e), rt) := ⟨_, rfl⟩

/-- A call to deny a token keeps its key from the time of its success on, and changes
nothing when it fails. -/
theorem put_ends {ttl : Ttl} {result : Except Cut (Except Failure Unit)}
    {rt' : Runtime (RedisServer L)} (call : put c token rt ttl = (result, rt')) :
    Asked (putCommand c token ttl) rt.world rt'.world
      ∧ (result = .ok (.ok ()) → rt'.world.keys = rt.world.keys.insert (c.tokenKey token)
          ⟨"1", rt'.world.time.later (Ttl.ofSeconds ttl.secondsUp).nanos⟩)
      ∧ (result ≠ .ok (.ok ()) → rt'.world.keys = rt.world.keys) := by
  have hends : Virtual.Ends (c.deny token ttl : ExceptT Failure (Run L) Unit).run rt.world
      (fun result w' => Asked (putCommand c token ttl) rt.world w'
        ∧ (result = .ok () → w'.keys = rt.world.keys.insert (c.tokenKey token)
            ⟨"1", w'.time.later (Ttl.ofSeconds ttl.secondsUp).nanos⟩)
        ∧ (result ≠ .ok () → w'.keys = rt.world.keys))
      (fun _ w' => Unheard (putCommand c token ttl) rt.world w') := by
    unfold RedisClient.deny
    split
    · exact .pure ⟨.refl _ _, nofun, fun _ => rfl⟩
    · rw [ExceptT.run_bind]
      apply Virtual.Ends.bind
      apply Virtual.Ends.map
      refine (ends_setFor c rt.world (c.tokenKey token) "1" ttl.secondsUp).mono ?_ fun _ _ h => h
      intro result w' h
      cases result with
      | ok a => exact .bind (.log (.pure ⟨h.1, fun _ => h.2, fun hne => absurd rfl hne⟩))
      | error e => exact .pure ⟨h.1, nofun, fun _ => h.2⟩
  obtain ⟨result', rt₁, hrun, -, -, hend⟩ := hends rt rfl
  obtain ⟨rfl, rfl⟩ := Prod.mk.inj (call.symm.trans hrun)
  cases result with
  | ok r =>
    refine ⟨hend.1, fun hok => hend.2.1 (Except.ok.inj hok), fun hne => hend.2.2 ?_⟩
    rintro rfl
    exact hne rfl
  | error cut => exact ⟨hend.2.toAsked, nofun, fun _ => hend.2.keys⟩

/-- Asking for a token changes nothing, and its answer says whether its key is held. -/
theorem query_ends {result : Except Cut (Except Failure Bool)} {rt' : Runtime (RedisServer L)}
    (call : query c token rt = (result, rt')) :
    Unheard (queryCommand c token) rt.world rt'.world
      ∧ ∀ b, result = .ok (.ok b) → b = rt'.world.isHeld (c.tokenKey token) := by
  have hends : Virtual.Ends (c.denies token : ExceptT Failure (Run L) Bool).run rt.world
      (fun result w' => Unheard (queryCommand c token) rt.world w'
        ∧ ∀ b, result = .ok b → b = w'.isHeld (c.tokenKey token))
      (fun _ w' => Unheard (queryCommand c token) rt.world w') := by
    unfold RedisClient.denies
    apply Virtual.Ends.map
    refine (ends_holds c rt.world (c.tokenKey token)).mono ?_ fun _ _ h => h
    intro result w' h
    cases result with
    | ok a => exact ⟨h.1, fun b hb => h.2 b (by cases hb; rfl)⟩
    | error e => exact ⟨h.1, nofun⟩
  obtain ⟨result', rt₁, hrun, -, -, hend⟩ := hends rt rfl
  obtain ⟨rfl, rfl⟩ := Prod.mk.inj (call.symm.trans hrun)
  cases result with
  | ok r => exact ⟨hend.1, fun b hb => hend.2 b (Except.ok.inj hb)⟩
  | error cut => exact ⟨hend.2, nofun⟩

end RedisServer

/-! ## Runs -/

open RedisServer

/-- A run of the denylist: the denials that took effect, each since the time at which it
did, and the state that the calls have led to. -/
inductive DenylistRun {L : RedisLink} (c : RedisClient) :
    List Denial → Runtime (RedisServer L) → Prop
  | start {rt : Runtime (RedisServer L)}
      (unused : ∀ token, rt.world.keys.get? (c.tokenKey token) = none) : DenylistRun c [] rt
  | denied {denials : List Denial} {rt rt' : Runtime (RedisServer L)} {token : String} {ttl : Ttl}
      (run : DenylistRun c denials rt) (short : ttl.nanos < 2 ^ 63 * 1000000000)
      (call : put c token rt ttl = (.ok (.ok ()), rt')) :
      DenylistRun c (denials ++ [{ token, since := rt'.world.time, ttl }]) rt'
  | failed {denials : List Denial} {rt rt' : Runtime (RedisServer L)} {token : String} {ttl : Ttl}
      {result : Except Cut (Except Failure Unit)} (run : DenylistRun c denials rt)
      (call : put c token rt ttl = (result, rt')) (failed : result ≠ .ok (.ok ())) :
      DenylistRun c denials rt'
  | asked {denials : List Denial} {rt rt' : Runtime (RedisServer L)} {token : String}
      {result : Except Cut (Except Failure Bool)} (run : DenylistRun c denials rt)
      (call : query c token rt = (result, rt')) : DenylistRun c denials rt'

namespace DenylistRun

variable {L : RedisLink} {c : RedisClient} {denials : List Denial}
  {rt rt' : Runtime (RedisServer L)}

/-- What is kept for a denial. -/
def lease (d : Denial) : Lease := ⟨"1", d.since.later d.ttl.ceil.nanos⟩

/-- For each token the cache keeps the last denial with its digest, and nothing else. -/
theorem keeps (h : DenylistRun c denials rt) (token : String) :
    rt.world.keys.get? (c.tokenKey token) = (Denial.lastAlike? token denials).map lease := by
  induction h with
  | start unused => exact unused token
  | denied run short call ih =>
    rename_i denials rt rt' denied ttl
    have hkeys := (put_ends c denied rt call).2.1 rfl
    rw [hkeys, Table.get?_insert, Denial.lastAlike?_concat, Ttl.ofSeconds_secondsUp short]
    by_cases halike : tokenDigest denied = tokenDigest token
    · have hkey : c.tokenKey token = c.tokenKey denied :=
        RedisClient.tokenKey_inj.2 halike.symm
      rw [if_pos hkey, if_pos halike]
      rfl
    · have hkey : c.tokenKey token ≠ c.tokenKey denied := fun h =>
        halike (RedisClient.tokenKey_inj.1 h).symm
      rw [if_neg hkey, if_neg halike]
      exact ih
  | failed run call failed ih => rw [(put_ends c _ _ call).2.2 failed, ih]
  | asked run call ih => rw [(query_ends c _ _ call).1.keys, ih]

end DenylistRun

/-- A way on which every command takes half a second and the first one is lost. -/
def RedisLink.lossy : RedisLink where
  State := Bool
  carry lost _ := (⟨500000000, if lost then none else some .unreachable⟩, true)

/-- A server without keys. -/
def RedisServer.unused : RedisServer RedisLink.lossy :=
  { link := false, time := ⟨0⟩, keys := .empty, sent := [] }

/-- Once the first command is lost, every question is answered half a second later. -/
theorem RedisServer.query_lossy (config : CacheConfig) (token : String)
    {rt : Runtime (RedisServer .lossy)} (lost : rt.world.link = true) :
    ∃ b rt', query (.ofConfig config) token rt = (.ok (.ok b), rt')
      ∧ rt'.world.time = rt.world.time.later 500000000 ∧ rt'.world.link = true := by
  obtain ⟨_, _, _, _, _, _, _, _, ⟨_, _, _, _⟩⟩ := rt
  cases lost
  exact ⟨_, _, Prod.ext rfl rfl, rfl, rfl⟩

namespace DenylistRun

variable {L : RedisLink} {c : RedisClient} {denials : List Denial}
  {rt rt' : Runtime (RedisServer L)}

/-- The denylist in the cache against the denials that took effect.  An answer follows the
last one with the digest of the token: true until it has run out, false once its length,
rounded up to whole seconds, is over.  An empty length of time is refused and nothing is
sent.  All that is ever sent about a token is one command, which has no more of it than
its digest, and tokens share a key only with their digest. -/
theorem refines (h : DenylistRun c denials rt) :
    (∀ token b rt', query c token rt = (.ok (.ok b), rt') →
      match Denial.lastAlike? token denials with
      | none => b = false
      | some d => (rt'.world.time.nanos < d.since.nanos + d.ttl.nanos → b = true)
          ∧ (d.since.nanos + d.ttl.ceil.nanos ≤ rt'.world.time.nanos → b = false))
      ∧ (∀ token, ∃ e, put c token rt ⟨0⟩ = (.ok (.error e), rt))
      ∧ (∀ token ttl, ∃ n, (put c token rt ttl).2.world.sent = rt.world.sent
          ++ List.replicate n (.setFor (c.digestKey (tokenDigest token)) "1" ttl.secondsUp))
      ∧ (∀ token, ∃ n, (query c token rt).2.world.sent = rt.world.sent
          ++ List.replicate n (.holds (c.digestKey (tokenDigest token))))
      ∧ ∀ token token', (c.tokenKey token = c.tokenKey token'
          ↔ tokenDigest token = tokenDigest token') := by
  refine ⟨?_, fun token => put_zero c token rt, ?_, ?_, ?_⟩
  · intro token b rt' call
    have hunheard := (query_ends c token rt call).1
    have hanswer := (query_ends c token rt call).2 b rfl
    have hkept := h.keeps token
    rw [hanswer, isHeld, hunheard.keys, hkept]
    cases Denial.lastAlike? token denials with
    | none => rfl
    | some d =>
      have hceil := d.ttl.le_ceil
      have hends : (lease d).ends.nanos = d.since.nanos + d.ttl.ceil.nanos := rfl
      simp only [Option.map_some, Option.any_some, hends, decide_eq_true_eq,
        decide_eq_false_iff_not]
      constructor
      · intro hbefore
        omega
      · intro hafter
        omega
  · intro token ttl
    exact (put_ends c token rt rfl).1.sent
  · intro token
    exact (query_ends c token rt rfl).1.sent
  · intro token token'
    exact RedisClient.tokenKey_inj

/-- A denial for a second and a half that needs two attempts takes effect at one second;
half a second later its token is denied, at three seconds no longer. -/
theorem refines_lossy :
    ∃ (c : RedisClient) (early late : Runtime (RedisServer .lossy)),
      DenylistRun c [⟨"a.b.c", ⟨1000000000⟩, ⟨1500000000⟩⟩] early
      ∧ (query c "a.b.c" early).1 = .ok (.ok true)
      ∧ DenylistRun c [⟨"a.b.c", ⟨1000000000⟩, ⟨1500000000⟩⟩] late
      ∧ (query c "a.b.c" late).1 = .ok (.ok false) := by
  have start : DenylistRun (.ofConfig .default) [] (.new .counting .unused) := .start fun _ => rfl
  obtain ⟨early, hput, htime, hlink⟩ : ∃ rt,
      put (.ofConfig .default) "a.b.c" (.new .counting .unused) ⟨1500000000⟩ = (.ok (.ok ()), rt)
        ∧ rt.world.time = ⟨1000000000⟩ ∧ rt.world.link = true :=
    ⟨_, Prod.ext rfl rfl, rfl, rfl⟩
  have denied := start.denied (by decide) hput
  rw [htime] at denied
  have hlast : Denial.lastAlike? "a.b.c" ([] ++ [⟨"a.b.c", ⟨1000000000⟩, ⟨1500000000⟩⟩])
      = some ⟨"a.b.c", ⟨1000000000⟩, ⟨1500000000⟩⟩ := by
    rw [Denial.lastAlike?_concat, if_pos rfl]
  -- each question takes half a second
  obtain ⟨b₁, rt₁, hquery₁, htime₁, hlink₁⟩ := query_lossy .default "a.b.c" hlink
  obtain ⟨b₂, rt₂, hquery₂, htime₂, hlink₂⟩ := query_lossy .default "b" hlink₁
  obtain ⟨b₃, rt₃, hquery₃, htime₃, hlink₃⟩ := query_lossy .default "c" hlink₂
  obtain ⟨b₄, rt₄, hquery₄, htime₄, -⟩ := query_lossy .default "a.b.c" hlink₃
  have asked := ((denied.asked hquery₁).asked hquery₂).asked hquery₃
  have hearly := denied.refines.1 "a.b.c" b₁ rt₁ hquery₁
  have hlate := asked.refines.1 "a.b.c" b₄ rt₄ hquery₄
  rw [hlast] at hearly hlate
  refine ⟨_, early, rt₃, denied, ?_, asked, ?_⟩
  · rw [hquery₁, hearly.1 (by rw [htime₁, htime]; decide)]
  · rw [hquery₄, hlate.2 (by rw [htime₄, htime₃, htime₂, htime₁, htime]; decide)]

end DenylistRun

end Gatehouse
