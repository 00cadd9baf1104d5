/-
  Gatehouse/Proofs/Session/Gate.lean --- tokens before a denylist.

  The denylist is left open but for what it promises: to deny a token from the time it
  is told to on, for as long as it is told to or longer, and to deny nothing else.  A
  token that is denied twice need only stay denied for the second time.

  Time passes between calls and while the denylist is called.  The service reads the clock
  first; its call arrives some time later, is answered as of then, and takes more time to
  come back.  So what the denylist says about a token may be from after the token ended.

  Main definitions: `Denylist`, `Gate`, `Runtime.arrival`, `TokenService.Accepts`.
  Main statements: `TokenService.accept_cases`, `TokenService.revoke_ends`.
-/
import Gatehouse.Account.Service
import Gatehouse.Proofs.Session.Checking
import Gatehouse.Proofs.Session.Issuing

set_option autoImplicit false

namespace Gatehouse

/-! ## Instants -/

namespace Instant

/-- The point in time some nanoseconds later. -/
def later (t : Instant) (nanos : Nat) : Instant := ⟨t.nanos + nanos⟩

theorem seconds_eq_ediv (t : Instant) : t.seconds = t.nanos / second :=
  Int.fdiv_eq_ediv_of_nonneg t.nanos (by decide)

/-- A whole second is ahead when the point in time is before its first nanosecond. -/
theorem seconds_lt_iff {t : Instant} {s : Int} : t.seconds < s ↔ t.nanos < s * second := by
  rw [seconds_eq_ediv]
  exact Int.ediv_lt_iff_lt_mul (by decide)

theorem seconds_mul_le (t : Instant) : t.seconds * second ≤ t.nanos := by
  rw [seconds_eq_ediv]
  exact Int.ediv_mul_le t.nanos (by decide)

end Instant

/-! ## Denylists -/

/-- A denial that took effect. -/
structure Denial where
  token : String
  since : Instant
  ttl : Ttl
  deriving DecidableEq, Repr, Inhabited

namespace Denial

/-- The last denial of a token. -/
def last? (token : String) (denials : List Denial) : Option Denial :=
  denials.reverse.find? fun d => d.token = token

theorem last?_token {token : String} {denials : List Denial} {d : Denial}
    (h : last? token denials = some d) : d ∈ denials ∧ d.token = token :=
  ⟨List.mem_reverse.1 (List.mem_of_find?_eq_some h), by simpa using List.find?_some h⟩

theorem last?_of_mem {denials : List Denial} {d : Denial} (h : d ∈ denials) :
    ∃ e, last? d.token denials = some e := by
  cases hlast : last? d.token denials with
  | some e => exact ⟨e, rfl⟩
  | none =>
    have hne := List.find?_eq_none.1 hlast d (List.mem_reverse.2 h)
    exact absurd (decide_eq_true rfl) hne

end Denial

/-- A denylist that keeps its promises. -/
structure Denylist where
  State : Type
  /-- The denials that took effect, in order. -/
  denials : State → List Denial
  /-- Denies a token for a length of time. -/
  put : State → Instant → String → Ttl → Except Failure Unit × State
  /-- Whether a token is denied. -/
  denies : State → Instant → String → Bool × State
  put_ok : ∀ {s t token ttl s'}, put s t token ttl = (.ok (), s') →
    denials s' = denials s ++ [{ token, since := t, ttl }]
  put_error : ∀ {s t token ttl e s'}, put s t token ttl = (.error e, s') → denials s' = denials s
  denies_keeps : ∀ s t token, denials (denies s t token).2 = denials s
  denies_only : ∀ {s t token}, (denies s t token).1 = true → ∃ d ∈ denials s, d.token = token
  denies_alive : ∀ {s t token d}, Denial.last? token (denials s) = some d →
    d.since.nanos ≤ t.nanos → t.nanos < d.since.nanos + d.ttl.nanos → (denies s t token).1 = true

/-- A denylist that drops a denial as soon as it may. -/
def Denylist.lapsing : Denylist where
  State := List Denial
  denials s := s
  put s t token ttl := (.ok (), s ++ [{ token, since := t, ttl }])
  denies s t token :=
    ((Denial.last? token s).any fun d => t.nanos < d.since.nanos + d.ttl.nanos, s)
  put_ok := by
    intro s t token ttl s' h
    exact (Prod.mk.inj h).2.symm
  put_error h := nomatch h
  denies_keeps _ _ _ := rfl
  denies_only := by
    intro s t token h
    obtain ⟨d, hlast, -⟩ := (Option.any_eq_true _ _).1 h
    exact ⟨d, Denial.last?_token hlast⟩
  denies_alive := by
    intro s t token d hlast _ alive
    rw [hlast, Option.any_some]
    exact decide_eq_true alive

/-- The last denial of a token decides. -/
theorem Denylist.lapsing_denies (denials : List Denial) (d : Denial) (t : Instant) :
    (Denylist.lapsing.denies (denials ++ [d] : List Denial) t d.token).1
      = decide (t.nanos < d.since.nanos + d.ttl.nanos) := by
  have hlast : Denial.last? d.token (denials ++ [d]) = some d := by
    simp [Denial.last?]
  simp only [Denylist.lapsing, hlast, Option.any_some]

/-- A signer and a denylist. -/
structure Gate (D : Denylist) where
  signer : JwtSigner
  denied : D.State
  /-- The nanoseconds until a call arrives at the denylist in a state. -/
  reach : D.State → Nat
  /-- The nanoseconds for which a call comes back that leaves the denylist in a state. -/
  pace : D.State → Nat

variable {D : Denylist}

/-- The state some nanoseconds later. -/
def Runtime.after (rt : Runtime (Gate D)) (nanos : Nat) : Runtime (Gate D) :=
  { rt with clock := rt.clock.later nanos }

/-- When a call of the denylist that is made now arrives. -/
def Runtime.arrival (rt : Runtime (Gate D)) : Instant :=
  rt.clock.later (rt.world.reach rt.world.denied)

theorem Runtime.clock_le_arrival (rt : Runtime (Gate D)) :
    rt.clock.nanos ≤ rt.arrival.nanos :=
  Int.le_add_of_nonneg_right (Int.natCast_nonneg _)

/-- The state after a call of the denylist. -/
def Runtime.called (rt : Runtime (Gate D)) (s : D.State) : Runtime (Gate D) :=
  { rt with
    clock := rt.arrival.later (rt.world.pace s)
    world := { rt.world with denied := s } }

theorem Runtime.arrival_le_called (rt : Runtime (Gate D)) (s : D.State) :
    rt.arrival.nanos ≤ (rt.called s).clock.nanos :=
  Int.le_add_of_nonneg_right (Int.natCast_nonneg _)

/-- The denials so far. -/
def Runtime.denials (rt : Runtime (Gate D)) : List Denial := D.denials rt.world.denied

namespace Gate

/-- A run of the token service. -/
abbrev Run (D : Denylist) := Virtual (Gate D)

instance : TokenSigner (Run D) where
  sign claims := do return (← ExceptT.lift Virtual.world).signer.sign claims
  verify token := do (← ExceptT.lift Virtual.world).signer.verify token

instance : RevocationStore (Run D) where
  put token ttl := ExceptT.mk (modifyGet fun rt =>
    let (result, s) := D.put rt.world.denied rt.arrival token ttl
    (result, rt.called s))
  denies token := ExceptT.mk (modifyGet fun rt =>
    let (result, s) := D.denies rt.world.denied rt.arrival token
    (.ok result, rt.called s))

end Gate

/-! ## What calls have in common -/

/-- Whether a denial lasts until the token has expired. -/
def Denial.Outlives (d : Denial) (signer : JwtSigner) : Prop :=
  ∃ c, signer.verify? d.token = some c ∧ c.exp * Instant.second ≤ d.since.nanos + d.ttl.nanos

/-- What happened between two states: time has not gone back, some observations were
made, and some denials took effect, each of which outlives its token. -/
structure Ran (rt : Runtime (Gate D)) (seen : List Observation) (added : List Denial)
    (rt' : Runtime (Gate D)) : Prop where
  signer : rt'.world.signer = rt.world.signer
  clock : rt.clock.nanos ≤ rt'.clock.nanos
  observer : rt'.observer = rt.observer
  observed : rt'.observed = rt.observed ++ seen
  denials : rt'.denials = rt.denials ++ added
  outlives : ∀ d ∈ added, d.Outlives rt.world.signer
  past : ∀ d ∈ added, d.since.nanos ≤ rt'.clock.nanos

namespace Ran

variable {rt rt₁ rt₂ : Runtime (Gate D)} {seen seen₁ : List Observation}
  {added added₁ : List Denial}

/-- Nothing but the log and the draws is different. -/
theorem quiet (h : rt.Quiet rt₁) : Ran rt [] [] rt₁ where
  signer := by rw [h.world]
  clock := Int.le_of_eq (congrArg Instant.nanos h.clock.symm)
  observer := h.observer
  observed := by rw [h.observed, List.append_nil]
  denials := by rw [Runtime.denials, h.world, List.append_nil, Runtime.denials]
  outlives := nofun
  past := nofun

theorem refl (rt : Runtime (Gate D)) : Ran rt [] [] rt := quiet ⟨rfl, rfl, rfl, rfl⟩

theorem logged (rt : Runtime (Gate D)) (e : LogEvent) : Ran rt [] [] (rt.logged e) :=
  quiet ⟨rfl, rfl, rfl, rfl⟩

theorem drew (rt : Runtime (Gate D)) : Ran rt [] [] rt.drew := quiet ⟨rfl, rfl, rfl, rfl⟩

/-- An observation is kept. -/
theorem observed_record (rt : Runtime (Gate D)) (o : Observation) :
    Ran rt [o] [] { rt with observed := rt.observed ++ [o] } where
  signer := rfl
  clock := Int.le_refl _
  observer := rfl
  observed := rfl
  denials := (List.append_nil _).symm
  outlives := nofun
  past := nofun

theorem trans (h : Ran rt seen added rt₁) (h₁ : Ran rt₁ seen₁ added₁ rt₂) :
    Ran rt (seen ++ seen₁) (added ++ added₁) rt₂ where
  signer := h₁.signer.trans h.signer
  clock := Int.le_trans h.clock h₁.clock
  observer := h₁.observer.trans h.observer
  observed := by rw [h₁.observed, h.observed, List.append_assoc]
  denials := by rw [h₁.denials, h.denials, List.append_assoc]
  outlives := by
    intro d hd
    rcases List.mem_append.1 hd with hd | hd
    · exact h.outlives d hd
    · rw [← h.signer]
      exact h₁.outlives d hd
  past := by
    intro d hd
    rcases List.mem_append.1 hd with hd | hd
    · exact Int.le_trans (h.past d hd) h₁.clock
    · exact h₁.past d hd

/-- A call of the denylist that adds no denial. -/
theorem called (rt : Runtime (Gate D)) {s : D.State} (h : D.denials s = rt.denials) :
    Ran rt [] [] (rt.called s) where
  signer := rfl
  clock := Int.le_trans rt.clock_le_arrival (rt.arrival_le_called s)
  observer := rfl
  observed := (List.append_nil _).symm
  denials := by rw [List.append_nil]; exact h
  outlives := nofun
  past := nofun

/-- A call of the denylist that adds a denial. -/
theorem denied (rt : Runtime (Gate D)) {s : D.State} {d : Denial}
    (h : D.denials s = rt.denials ++ [d]) (since : d.since = rt.arrival)
    (outlives : d.Outlives rt.world.signer) : Ran rt [] [d] (rt.called s) where
  signer := rfl
  clock := Int.le_trans rt.clock_le_arrival (rt.arrival_le_called s)
  observer := rfl
  observed := (List.append_nil _).symm
  denials := h
  outlives := by
    intro e he
    rw [List.mem_singleton.1 he]
    exact outlives
  past := by
    intro e he
    rw [List.mem_singleton.1 he, since]
    exact rt.arrival_le_called s

end Ran

/-! ## One collaborator at a time -/

section

variable (rt : Runtime (Gate D)) (token : String)

theorem Gate.runOn_sign (c : Claims) (rt : Runtime (Gate D)) :
    (TokenSigner.sign c : ExceptT Failure (Gate.Run D) String).run.runOn rt
      = (.ok (.ok (rt.world.signer.sign c)), rt) := rfl

theorem Gate.runOn_put (ttl : Ttl) :
    (RevocationStore.put token ttl : ExceptT Failure (Gate.Run D) Unit).run.runOn rt
      = (.ok (D.put rt.world.denied rt.arrival token ttl).1,
        rt.called (D.put rt.world.denied rt.arrival token ttl).2) := rfl

theorem Gate.runOn_denies :
    (RevocationStore.denies token : ExceptT Failure (Gate.Run D) Bool).run.runOn rt
      = (.ok (.ok (D.denies rt.world.denied rt.arrival token).1),
        rt.called (D.denies rt.world.denied rt.arrival token).2) := rfl

/-- The signer gives the claims of a token, or the token is refused. -/
theorem Gate.verify_cases :
    (∃ c, rt.world.signer.verify? token = some c
        ∧ (TokenSigner.verify token : ExceptT Failure (Gate.Run D) Claims).run.runOn rt
          = (.ok (.ok c), rt))
      ∨ rt.world.signer.verify? token = none
        ∧ ∃ e, (TokenSigner.verify token : ExceptT Failure (Gate.Run D) Claims).run.runOn rt
          = (.ok (.error (.token .invalid)), rt.logged e) :=
  TokenService.runOn_verify_cases rt Gate.signer token rfl

end

/-! ## Pieces of the service -/

namespace TokenService

variable (rt : Runtime (Gate D)) (token : String)

/-- Whether a token of a kind is verified and has not expired. -/
structure Live (kind : TokenKind) (c : Claims) : Prop where
  verified : rt.world.signer.verify? token = some c
  typ : c.typ = kind
  unexpired : rt.clock.seconds < c.exp

/-- A token of the kind that is live gives its claims; any other is refused. -/
theorem verifyLive_cases (kind : TokenKind) :
    (∃ c, Live rt token kind c
        ∧ (verifyLive token kind : ExceptT Failure (Gate.Run D) Claims).run.runOn rt
          = (.ok (.ok c), rt))
      ∨ (∀ c, ¬ Live rt token kind c) ∧ ∃ e rt₁, Ran rt [] [] rt₁
        ∧ (verifyLive token kind : ExceptT Failure (Gate.Run D) Claims).run.runOn rt
          = (.ok (.error e), rt₁) := by
  obtain ⟨c, passes, hrun⟩ | ⟨hnone, rt₁, quiet, hrun⟩ :=
    runOn_verifyLive_cases rt Gate.signer token rfl kind
  · exact Or.inl ⟨c, ⟨passes.verified, passes.typ, passes.unexpired⟩, hrun⟩
  · refine Or.inr ⟨?_, _, rt₁, .quiet quiet, hrun⟩
    intro c live
    exact hnone c ⟨live.verified, live.typ, live.unexpired⟩

/-- The state after the denylist was asked about a token. -/
def asked : Runtime (Gate D) := rt.called (D.denies rt.world.denied rt.arrival token).2

theorem asked_ran : Ran rt [] [] (asked rt token) := .called rt (D.denies_keeps _ _ _)

/-- What accepting a token of a kind comes down to, in either use. -/
def accept (kind : TokenKind) : ExceptT Failure (Gate.Run D) Uuid := do
  let claims ← verifyLive token kind
  ensureNotRevoked token
  subject claims

theorem authorize_eq :
    (authorize token : ExceptT Failure (Gate.Run D) Uuid) = accept token .access := rfl

theorem refresh_eq (s : TokenService) :
    (s.refresh token : ExceptT Failure (Gate.Run D) String)
      = accept token .refresh >>= fun user =>
        ExceptT.lift now >>= fun t => s.make .access user t := by
  simp only [refresh, accept, bind_assoc]

/-- Whether the denylist denies a token to a question that is asked now. -/
def Denied : Prop := (D.denies rt.world.denied rt.arrival token).1 = true

/-- Whether a token of a kind is accepted, and for whom. -/
def Accepts (kind : TokenKind) (id : Uuid) : Prop :=
  ∃ c, Live rt token kind c ∧ c.userId? = some id ∧ ¬ Denied rt token

theorem accept_cases (kind : TokenKind) :
    (∃ id, Accepts rt token kind id
        ∧ (accept token kind).run.runOn rt = (.ok (.ok id), asked rt token))
      ∨ (∀ id, ¬ Accepts rt token kind id) ∧ ∃ e rt₁, Ran rt [] [] rt₁
        ∧ (accept token kind).run.runOn rt = (.ok (.error e), rt₁) := by
  rw [accept, Virtual.runOn_attempt_bind]
  obtain ⟨c, live, hrun⟩ | ⟨hnone, e, rt₁, ran, hrun⟩ := verifyLive_cases rt token kind
  · have same : ∀ {d}, Live rt token kind d → d = c := by
      intro d h
      exact Option.some.inj (h.verified.symm.trans live.verified)
    rw [hrun]
    dsimp only
    rw [ensureNotRevoked, Virtual.runOn_attempt_bind, Virtual.runOn_attempt_bind, Gate.runOn_denies]
    dsimp only
    cases hdenied : (D.denies rt.world.denied rt.arrival token).1 with
    | true =>
      refine Or.inr ⟨?_, _, _, asked_ran rt token, rfl⟩
      rintro id ⟨d, -, -, hnot⟩
      exact hnot hdenied
    | false =>
      rw [subject]
      cases hid : c.userId? with
      | none =>
        refine Or.inr ⟨?_, _, _, asked_ran rt token, rfl⟩
        rintro id ⟨d, hd, hsome, -⟩
        obtain rfl := same hd
        exact nomatch hid.symm.trans hsome
      | some id =>
        have hnot : ¬ Denied rt token := by
          rw [Denied, hdenied]
          exact Bool.false_ne_true
        exact Or.inl ⟨id, ⟨c, live, hid, hnot⟩, rfl⟩
  · rw [hrun]
    refine Or.inr ⟨?_, e, rt₁, ran, rfl⟩
    rintro id ⟨c, live, -⟩
    exact hnone c live

/-- How the revocation of a token ends: it is refused and denies nothing, or it denies
the token for as long as it would otherwise be accepted. -/
inductive RevocationEnds : Except Cut (Except Failure Unit) × Runtime (Gate D) → Prop
  | refused {e : Failure} {rt₁ : Runtime (Gate D)} (ran : Ran rt [] [] rt₁) :
      RevocationEnds (.ok (.error e), rt₁)
  | denied {d : Denial} {rt₁ : Runtime (Gate D)} (same : d.token = token)
      (ran : Ran rt [] [d] rt₁) : RevocationEnds (.ok (.ok ()), rt₁)

/-- The revocation of a token that has not expired ends as the denylist answers. -/
theorem runOn_revoke_of_left {c : Claims} {result : Except Failure Unit} {s : D.State}
    (left : rt.clock.seconds < c.exp)
    (hput : D.put rt.world.denied rt.arrival token
      (.ofSeconds (c.remainingSeconds rt.clock).toNat) = (result, s)) :
    ∃ rt₁, (rt.called s).Quiet rt₁
      ∧ (revoke token c : ExceptT Failure (Gate.Run D) Unit).run.runOn rt = (.ok result, rt₁) := by
  have hleft : ¬ c.remainingSeconds rt.clock ≤ 0 := by
    rw [Claims.remainingSeconds]
    omega
  rw [revoke, Virtual.runOn_attempt_bind, Virtual.runOn_attempt_lift, Virtual.runOn_now]
  dsimp only
  rw [if_neg hleft, Virtual.runOn_attempt_bind, Gate.runOn_put, hput]
  cases result with
  | error e => exact ⟨_, ⟨rfl, rfl, rfl, rfl⟩, rfl⟩
  | ok a => exact ⟨(rt.called s).logged _, ⟨rfl, rfl, rfl, rfl⟩, rfl⟩

theorem runOn_invalidate_of_left {c : Claims} {result : Except Failure Unit} {s : D.State}
    (verified : rt.world.signer.verify? token = some c) (left : rt.clock.seconds < c.exp)
    (hput : D.put rt.world.denied rt.arrival token
      (.ofSeconds (c.remainingSeconds rt.clock).toNat) = (result, s)) :
    ∃ rt₁, (rt.called s).Quiet rt₁
      ∧ (invalidate token : ExceptT Failure (Gate.Run D) Unit).run.runOn rt
        = (.ok result, rt₁) := by
  obtain ⟨c', verified', hrun⟩ | ⟨hnone, -⟩ := Gate.verify_cases rt token
  · obtain rfl := Option.some.inj (verified.symm.trans verified')
    rw [invalidate, Virtual.runOn_attempt_bind, hrun]
    exact runOn_revoke_of_left rt token left hput
  · exact nomatch verified.symm.trans hnone

theorem revoke_ends {c : Claims} (verified : rt.world.signer.verify? token = some c) :
    RevocationEnds rt token
      ((revoke token c : ExceptT Failure (Gate.Run D) Unit).run.runOn rt) := by
  by_cases left : rt.clock.seconds < c.exp
  · obtain ⟨⟨result, s⟩, hput⟩ : ∃ r, D.put rt.world.denied rt.arrival token
        (.ofSeconds (c.remainingSeconds rt.clock).toNat) = r := ⟨_, rfl⟩
    obtain ⟨rt₁, quiet, hrun⟩ := runOn_revoke_of_left rt token left hput
    rw [hrun]
    cases result with
    | error e => exact .refused ((Ran.called rt (D.put_error hput)).trans (.quiet quiet))
    | ok _ =>
      have outlives : Denial.Outlives
          ⟨token, rt.arrival, .ofSeconds (c.remainingSeconds rt.clock).toNat⟩ rt.world.signer := by
        refine ⟨c, verified, ?_⟩
        -- the seconds that are left are counted from the whole second before the clock was
        -- read, and the denial begins no earlier than that
        have hfloor := rt.clock.seconds_mul_le
        have harrival := rt.clock_le_arrival
        simp only [Claims.remainingSeconds, Ttl.ofSeconds, Instant.second] at left hfloor ⊢
        omega
      have ran := Ran.denied rt (D.put_ok hput) rfl outlives
      exact .denied rfl (ran.trans (.quiet quiet))
  · have hleft : c.remainingSeconds rt.clock ≤ 0 := by
      rw [Claims.remainingSeconds]
      omega
    rw [revoke, Virtual.runOn_attempt_bind, Virtual.runOn_attempt_lift, Virtual.runOn_now]
    dsimp only
    rw [if_pos hleft]
    exact .refused (.refl rt)

theorem invalidate_ends :
    RevocationEnds rt token
      ((invalidate token : ExceptT Failure (Gate.Run D) Unit).run.runOn rt) := by
  rw [invalidate, Virtual.runOn_attempt_bind]
  obtain ⟨c, hsome, hrun⟩ | ⟨-, e, hrun⟩ := Gate.verify_cases rt token
  · rw [hrun]
    exact revoke_ends rt token hsome
  · rw [hrun]
    exact .refused (.logged rt e)

theorem invalidateRefresh_ends :
    RevocationEnds rt token
      ((invalidateRefresh token : ExceptT Failure (Gate.Run D) Unit).run.runOn rt) := by
  rw [invalidateRefresh, Virtual.runOn_attempt_bind]
  obtain ⟨c, hsome, hrun⟩ | ⟨-, e, hrun⟩ := Gate.verify_cases rt token
  · rw [hrun]
    dsimp only
    by_cases htyp : c.typ = .refresh
    · rw [if_neg (Decidable.not_not.2 htyp)]
      exact revoke_ends rt token hsome
    · rw [if_pos htyp]
      exact .refused (.refl rt)
  · rw [hrun]
    exact .refused (.logged rt e)

end TokenService

end Gatehouse
