/-
  Gatehouse/Proofs/Session/Revoking.lean --- what a revocation tells the store of denied tokens.

  A record is kept of what a store of denied tokens is told, whatever it answers and however
  long that takes.  A token can be revoked exactly while it is live: the store is told of it
  once, for the seconds that are left.  Of a token that has expired it is told nothing.  The
  seconds that are left are counted in words of 64 bits; from 1970 on no such count overflows,
  even for a token that expires at the largest word.

  Main definitions: `Claims.CountedExactly`, `DenyStore.recorded`, `Claims.denial`.
  Main statements: `Claims.countedExactly_of_verify?`, `Desk.runOn_revoke_cases`,
  `Desk.revocable_while_live`.
-/
import Gatehouse.Proofs.Session.Refusing

set_option autoImplicit false

namespace Gatehouse

/-! ## Seconds in words -/

theorem IsInt64.toInt_ofInt {i : Int} (h : IsInt64 i) : (Int64.ofInt i).toInt = i :=
  Int64.toInt_ofInt_of_le h.1 h.2

/-- The second of a point in time that has a date is a signed number of 64 bits. -/
theorem Instant.isInt64_seconds {t : Instant} (dated : t.hasDate = true) : IsInt64 t.seconds := by
  simp only [hasDate, Bool.and_eq_true, decide_eq_true_eq] at dated
  simp only [firstSecond, lastSecond] at dated
  exact ⟨by omega, by omega⟩

namespace Claims

/-- The seconds that are left, counted in words of 64 bits. -/
def wordLeft (c : Claims) (t : Instant) : Int64 := Int64.ofInt c.exp - Int64.ofInt t.seconds

/-- Whether counting in words of 64 bits makes no difference at a point in time: the seconds
that are left and their negation are the exact ones, the seconds that are left are the same
as a word without a sign, and both tests for the end say whether the claims have expired. -/
structure CountedExactly (c : Claims) (t : Instant) : Prop where
  left : (c.wordLeft t).toInt = c.remainingSeconds t
  ago : (-c.wordLeft t).toInt = t.seconds - c.exp
  unsigned : 0 ≤ c.wordLeft t → ((c.wordLeft t).toUInt64.toNat : Int) = c.remainingSeconds t
  reached_iff : Int64.ofInt c.exp ≤ Int64.ofInt t.seconds ↔ c.isExpiredAt t = true
  none_left_iff : c.wordLeft t ≤ 0 ↔ c.isExpiredAt t = true

/-- No count overflows when neither time lies before 1970. -/
theorem countedExactly {c : Claims} {t : Instant} (exp : IsInt64 c.exp) (expires : 0 ≤ c.exp)
    (seconds : IsInt64 t.seconds) (since : 0 ≤ t.seconds) : c.CountedExactly t := by
  have hexp := exp.2
  have hseconds := seconds.2
  have hleft : IsInt64 (c.exp - t.seconds) := ⟨by omega, by omega⟩
  have hover : IsInt64 (t.seconds - c.exp) := ⟨by omega, by omega⟩
  have hword : c.wordLeft t = Int64.ofInt (c.exp - t.seconds) := (Int64.ofInt_sub _ _).symm
  have hneg : -Int64.ofInt (c.exp - t.seconds) = Int64.ofInt (t.seconds - c.exp) := by
    rw [← Int64.ofInt_neg, Int.neg_sub]
  refine ⟨?_, ?_, ?_, ?_, ?_⟩
  · rw [hword, hleft.toInt_ofInt, remainingSeconds]
  · rw [hword, hneg, hover.toInt_ofInt]
  · intro hnonneg
    have hle := Int64.le_iff_toInt_le.1 hnonneg
    rw [hword, hleft.toInt_ofInt, Int64.toInt_zero] at hle
    rw [Int64.toNat_toUInt64_of_le hnonneg, Int64.toNatClampNeg, hword, hleft.toInt_ofInt,
      remainingSeconds, Int.toNat_of_nonneg hle]
  · rw [Int64.le_iff_toInt_le, exp.toInt_ofInt, seconds.toInt_ofInt, isExpiredAt, decide_eq_true_eq]
  · rw [Int64.le_iff_toInt_le, hword, hleft.toInt_ofInt, Int64.toInt_zero, isExpiredAt,
      decide_eq_true_eq]
    omega

/-- Claims that a signer accepts are counted exactly from 1970 on. -/
theorem countedExactly_of_verify? {signer : JwtSigner} {text : String} {c : Claims}
    (accepted : signer.verify? text = some c) {t : Instant} (since : 0 ≤ t.nanos)
    (dated : t.hasDate = true) : c.CountedExactly t := by
  obtain ⟨header, payload, genuine⟩ := JwtSigner.exists_genuine accepted
  obtain ⟨members, -, hread⟩ := genuine.claims
  have hseconds : 0 ≤ t.seconds := by
    rw [Instant.seconds_eq_ediv]
    exact Int.ediv_nonneg since (by decide)
  exact countedExactly (inRange_of_ofJson? hread).exp genuine.exp
    (Instant.isInt64_seconds dated) hseconds

/-- The denial of a token for the seconds that its claims have left. -/
def denial (c : Claims) (token : String) (t : Instant) : Denial where
  token
  since := t
  ttl := .ofSeconds (c.remainingSeconds t).toNat

/-- The denial of a live token lasts exactly from the last whole second to the end. -/
theorem denial_ttl {c : Claims} {t : Instant} (live : t.seconds < c.exp) (token : String) :
    ((c.denial token t).ttl.nanos : Int) = (c.exp - t.seconds) * Instant.second := by
  have hnonneg : 0 ≤ c.exp - t.seconds := by omega
  rw [denial, Ttl.ofSeconds, remainingSeconds, Int.natCast_mul, Int.toNat_of_nonneg hnonneg]
  rfl

end Claims

/-! ## Stores with a record -/

/-- A denial that a store was told of, and what it answered. -/
structure Telling where
  denial : Denial
  answer : Except Failure Unit

/-- Whether the store said that a denial took effect. -/
def Telling.tookEffect (x : Telling) : Bool :=
  match x.answer with
  | .ok () => true
  | .error _ => false

@[simp] theorem Telling.tookEffect_ok (d : Denial) : tookEffect ⟨d, .ok ()⟩ = true := rfl

@[simp] theorem Telling.tookEffect_error (d : Denial) (e : Failure) :
    tookEffect ⟨d, .error e⟩ = false := rfl

/-- A store together with a record of what it was told, in order. -/
def DenyStore.recorded (S : DenyStore) : DenyStore where
  State := S.State × List Telling
  ask s t token := S.ask s.1 t token
  put s t token ttl :=
    ((S.put s.1 t token ttl).1, (S.put s.1 t token ttl).2,
      s.2 ++ [⟨⟨token, t, ttl⟩, (S.put s.1 t token ttl).1⟩])
  pace s := S.pace s.1

namespace Desk

variable {S : DenyStore}

/-- What the store keeps. -/
def kept (w : Desk S.recorded) : S.State := w.denied.1

/-- What the store was told. -/
def told (w : Desk S.recorded) : List Telling := w.denied.2

/-- The denials that took effect. -/
def denials (w : Desk S.recorded) : List Denial :=
  ((told w).filter Telling.tookEffect).map Telling.denial

/-- What the store answers when it is told of a denial. -/
def answerTo (w : Desk S.recorded) (d : Denial) : Except Failure Unit :=
  (S.put (kept w) d.since d.token d.ttl).1

/-- The desk after its store was told of a denial. -/
def telling (w : Desk S.recorded) (d : Denial) : Desk S.recorded :=
  { w with denied := ((S.put (kept w) d.since d.token d.ttl).2, told w ++ [⟨d, answerTo w d⟩]) }

@[simp] theorem told_telling (w : Desk S.recorded) (d : Denial) :
    told (telling w d) = told w ++ [⟨d, answerTo w d⟩] := rfl

theorem denials_telling_ok {w : Desk S.recorded} {d : Denial} (h : answerTo w d = .ok ()) :
    denials (telling w d) = denials w ++ [d] := by
  simp [denials, h, List.filter_cons]

theorem denials_telling_error {w : Desk S.recorded} {d : Denial} {e : Failure}
    (h : answerTo w d = .error e) : denials (telling w d) = denials w := by
  simp [denials, h]

variable (rt : Runtime (Desk S.recorded)) (token : String)

/-- The state after the store was told of a denial. -/
def afterTelling (d : Denial) : Runtime (Desk S.recorded) :=
  { waited rt with world := telling rt.world d }

theorem runOn_put (ttl : Ttl) :
    (RevocationStore.put token ttl : ExceptT Failure (Run S.recorded) Unit).run.runOn rt
      = (.ok (answerTo rt.world ⟨token, rt.clock, ttl⟩),
        afterTelling rt ⟨token, rt.clock, ttl⟩) := rfl

/-! ## Revocations -/

/-- What revoking a token with some claims gives. -/
def revoked (c : Claims) : Except Cut (Except Failure Unit) × Runtime (Desk S.recorded) :=
  (TokenService.revoke token c : ExceptT Failure (Run S.recorded) Unit).run.runOn rt

/-- The failure of revoking a token that has expired. -/
def tooLate (c : Claims) (t : Instant) : Failure := .token (.negativeTtl (t.seconds - c.exp))

/-- An expired token is refused and nothing happens, or the store is told of a live one and
its answer is the answer. -/
theorem runOn_revoke_cases (c : Claims) :
    (c.exp ≤ rt.clock.seconds ∧ revoked rt token c = (.ok (.error (tooLate c rt.clock)), rt))
      ∨ rt.clock.seconds < c.exp ∧ ∃ rt₁,
        (afterTelling rt (c.denial token rt.clock)).Quiet rt₁
          ∧ revoked rt token c = (.ok (answerTo rt.world (c.denial token rt.clock)), rt₁) := by
  rw [revoked, TokenService.revoke, Virtual.runOn_attempt_bind, Virtual.runOn_attempt_lift,
    Virtual.runOn_now]
  dsimp only
  by_cases hover : c.exp ≤ rt.clock.seconds
  · have hleft : c.remainingSeconds rt.clock ≤ 0 := by
      rw [Claims.remainingSeconds]
      omega
    have hover' : -c.remainingSeconds rt.clock = rt.clock.seconds - c.exp := Int.neg_sub _ _
    rw [if_pos hleft, hover']
    exact Or.inl ⟨hover, rfl⟩
  · have hleft : ¬ c.remainingSeconds rt.clock ≤ 0 := by
      rw [Claims.remainingSeconds]
      omega
    rw [if_neg hleft, Virtual.runOn_attempt_bind, runOn_put, ← Claims.denial]
    refine Or.inr ⟨Int.not_le.1 hover, ?_⟩
    cases answerTo rt.world (c.denial token rt.clock) with
    | error e => exact ⟨_, ⟨rfl, rfl, rfl, rfl⟩, rfl⟩
    | ok a => exact ⟨(afterTelling rt _).logged _, ⟨rfl, rfl, rfl, rfl⟩, rfl⟩

/-- From 1970 on, a token with claims that a signer accepts can be revoked exactly while it is
live, and the seconds that it has left are counted without overflow.  The store is told once of
a live token, for the seconds that are left, and its answer is the answer.  An expired token is
refused with the seconds since its end, and nothing is changed. -/
theorem revocable_while_live {signer : JwtSigner} {text : String} {c : Claims}
    (accepted : signer.verify? text = some c) (since : 0 ≤ rt.clock.nanos)
    (dated : rt.clock.hasDate = true) :
    c.CountedExactly rt.clock
      ∧ ((∃ x, told (revoked rt token c).2.world = told rt.world ++ [x])
        ↔ c.isExpiredAt rt.clock = false)
      ∧ (c.isExpiredAt rt.clock = false → ∃ ttl : Ttl,
        (ttl.nanos : Int) = (c.exp - rt.clock.seconds) * Instant.second
          ∧ (revoked rt token c).1 = .ok (answerTo rt.world ⟨token, rt.clock, ttl⟩)
          ∧ (revoked rt token c).2.world = telling rt.world ⟨token, rt.clock, ttl⟩)
      ∧ (c.isExpiredAt rt.clock = true → revoked rt token c
        = (.ok (.error (.token (.negativeTtl (rt.clock.seconds - c.exp)))), rt)) := by
  refine ⟨Claims.countedExactly_of_verify? accepted since dated, ?_⟩
  obtain ⟨hover, hrun⟩ | ⟨hlive, rt₁, quiet, hrun⟩ := runOn_revoke_cases rt token c
  · have hexpired : c.isExpiredAt rt.clock = true := decide_eq_true hover
    rw [hrun, hexpired]
    refine ⟨iff_of_false ?_ nofun, nofun, fun _ => rfl⟩
    rintro ⟨x, hx⟩
    simp at hx
  · have hexpired : c.isExpiredAt rt.clock = false := decide_eq_false (Int.not_le.2 hlive)
    have hworld : rt₁.world = telling rt.world (c.denial token rt.clock) := quiet.world
    rw [hrun, hexpired, hworld]
    exact ⟨iff_of_true ⟨_, told_telling _ _⟩ rfl,
      fun _ => ⟨_, Claims.denial_ttl hlive token, rfl, rfl⟩, nofun⟩

/-- The state of a desk at a point in time whose store was not told anything yet. -/
def recordedAt (s : S.State) (t : Instant) : Runtime (Desk S.recorded) :=
  { Runtime.new .counting { signer := signerOfDefault, denied := (s, []) } with clock := t }

/-- Half a second into 1970, a token that expires at the last second of 64 bits is revoked for
all the seconds up to its end. -/
theorem revocable_while_live_longest :
    let c : Claims := { outlasting with exp := 0x7FFFFFFFFFFFFFFF }
    let rt : Runtime (Desk lenient.recorded) := recordedAt () ⟨500000000⟩
    let token := signerOfDefault.sign c
    signerOfDefault.verify? token = some c
      ∧ (revoked rt token c).1 = .ok (.ok ())
      ∧ told (revoked rt token c).2.world
        = [⟨⟨token, ⟨500000000⟩, .ofSeconds 0x7FFFFFFFFFFFFFFF⟩, .ok ()⟩] := by
  intro c rt token
  have accepted : signerOfDefault.verify? token = some c :=
    JwtSigner.verify?_sign ⟨by decide, by decide⟩ rfl (by decide)
  have live : c.isExpiredAt rt.clock = false := by decide
  obtain ⟨-, -, told_live, -⟩ := revocable_while_live rt token accepted (by decide) (by decide)
  obtain ⟨⟨nanos⟩, hnanos, hanswer, hworld⟩ := told_live live
  have hseconds : nanos = 0x7FFFFFFFFFFFFFFF * 1000000000 := by
    have hexp : (c.exp - rt.clock.seconds) * Instant.second
        = 0x7FFFFFFFFFFFFFFF * 1000000000 := by decide
    dsimp only at hnanos
    omega
  rw [hworld, hseconds]
  exact ⟨accepted, hanswer, rfl⟩

end Desk

end Gatehouse
