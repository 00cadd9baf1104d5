/-
  Gatehouse/Proofs/Session/Lifetimes.lean --- from when to when a token is accepted.

  Every token that a run makes has its claims: the user, the kind, the whole second in
  which it was made, an end that lies its lifetime later, and an id that was drawn for
  it.  The claims are read back from the token, so it is accepted in the use of its kind
  and for its user up to the last nanosecond before its end, and in no other use ever.
  Tokens with different ids are different texts.

  Main definitions: `Minted`, `Gate.Minting`.
  Main statements: `Gate.Minting.genuine`, `Gate.Minting.lifetimes`.
-/
import Gatehouse.Proofs.Session.Revocation
import Gatehouse.Proofs.Session.Signing
import Gatehouse.Proofs.Text.Identifiers

set_option autoImplicit false

namespace Gatehouse

/-! ## Ends -/

namespace Instant

theorem of_after? {t e : Instant} {s : Int} (h : t.after? s = some e) :
    e = ⟨t.nanos + s * second⟩ ∧ e.hasDate = true := by
  simp only [after?] at h
  split at h
  · rename_i hheld
    simp only [Bool.and_eq_true] at hheld
    cases h
    exact ⟨rfl, hheld.2⟩
  · cases h

/-- A lifetime of whole seconds ends at the same part of a second as it began. -/
theorem seconds_after? {t e : Instant} {s : Int} (h : t.after? s = some e) :
    e.seconds = t.seconds + s := by
  obtain ⟨rfl, -⟩ := of_after? h
  rw [seconds_eq_ediv, seconds_eq_ediv]
  exact Int.add_mul_ediv_right t.nanos s (by decide)

/-- The end of a lifetime has a date. -/
theorem seconds_le_of_after? {t e : Instant} {s : Int} (h : t.after? s = some e) :
    e.seconds ≤ lastSecond := by
  have hdate := (of_after? h).2
  simp only [hasDate, Bool.and_eq_true, decide_eq_true_eq] at hdate
  exact hdate.2

end Instant

/-! ## What is made -/

/-- A token that was made: its kind, the user it is for, the id that was drawn for it, and
the point in time at which it was made. -/
structure Minted where
  token : String
  kind : TokenKind
  user : Uuid
  jti : Uuid
  issued : Instant
  deriving DecidableEq, Repr, Inhabited

namespace Minted

/-- The second from which on a token is no longer accepted. -/
def ending (m : Minted) (s : TokenService) : Int := m.issued.nanos / 1000000000 + s.ttl m.kind

/-- The claims of a token. -/
def claims (m : Minted) (s : TokenService) : Claims where
  sub := m.user.text
  iat := m.issued.nanos / 1000000000
  exp := m.ending s
  iss := s.issuer
  jti := m.jti.text
  typ := m.kind

theorem userId?_claims (m : Minted) (s : TokenService) : (m.claims s).userId? = some m.user :=
  m.user.parse?_text

/-- Whether a token reads back as its claims. -/
def Genuine (m : Minted) (s : TokenService) (signer : JwtSigner) : Prop :=
  signer.verify? m.token = some (m.claims s)

/-- What is signed for a lifetime that is positive and has an end reads back. -/
theorem genuine_of_mint? {s : TokenService} {signer : JwtSigner} {kind : TokenKind}
    {user jti : Uuid} {issued : Instant} {c : Claims}
    (minted : Claims.mint? kind user issued (s.ttl kind) s.issuer jti = some c)
    (positive : 0 < s.ttl kind) (issuer : signer.issuer = s.issuer) (since : 0 ≤ issued.nanos) :
    Genuine ⟨signer.sign c, kind, user, jti, issued⟩ s signer := by
  obtain ⟨expiry, hexpiry, rfl⟩ := Option.map_eq_some_iff.1 minted
  have hiat : issued.seconds = issued.nanos / 1000000000 := issued.seconds_eq_ediv
  have hpast : 0 ≤ issued.seconds := by
    rw [hiat]
    omega
  have hexp := Instant.seconds_after? hexpiry
  have hlast := Instant.seconds_le_of_after? hexpiry
  rw [Instant.lastSecond] at hlast
  have hrange : Claims.InRange ⟨user.text, issued.seconds, expiry.seconds, s.issuer, jti.text, kind⟩
      := ⟨⟨by simp only; omega, by simp only; omega⟩, ⟨by simp only; omega, by simp only; omega⟩⟩
  have hclaims : Minted.claims ⟨signer.sign
        ⟨user.text, issued.seconds, expiry.seconds, s.issuer, jti.text, kind⟩,
        kind, user, jti, issued⟩ s
      = ⟨user.text, issued.seconds, expiry.seconds, s.issuer, jti.text, kind⟩ := by
    rw [claims, ending, hexp, hiat]
  rw [Genuine, hclaims]
  exact signer.verify?_sign hrange issuer.symm (by simp only; omega)

end Minted

/-! ## What the calls make -/

namespace TokenService

variable {D : Denylist} {s : TokenService} {rt rt₁ : Runtime (Gate D)}

theorem runOn_make_gate (kind : TokenKind) (user : Uuid) (issued : Instant) :
    (s.make kind user issued : ExceptT Failure (Gate.Run D) String).run.runOn rt
      = match Claims.mint? kind user issued (s.ttl kind) s.issuer
            (rt.entropy.idAt rt.entropy.drawn) with
        | none => (.error .overflow, rt.drew)
        | some c => (.ok (.ok (rt.world.signer.sign c)), rt.drew) := by
  rw [runOn_make]
  rfl

/-- A pair that was issued is made of two tokens with one time of issue. -/
theorem of_issue {user : Uuid} {pair : TokenPair}
    (h : (s.issue user : ExceptT Failure (Gate.Run D) TokenPair).run.runOn rt
      = (.ok (.ok pair), rt₁)) :
    ∃ a r, Claims.mint? .access user rt.clock s.accessTtl s.issuer
          (rt.entropy.idAt rt.entropy.drawn) = some a
      ∧ Claims.mint? .refresh user rt.clock s.refreshTtl s.issuer
          (rt.entropy.idAt (rt.entropy.drawn + 1)) = some r
      ∧ pair = ⟨rt.world.signer.sign a, rt.world.signer.sign r⟩ ∧ rt₁.clock = rt.clock := by
  simp only [issue, Virtual.runOn_attempt_bind, Virtual.runOn_attempt_lift, Virtual.runOn_now,
    runOn_make_gate] at h
  cases haccess : Claims.mint? .access user rt.clock (s.ttl .access) s.issuer
      (rt.entropy.idAt rt.entropy.drawn) with
  | none =>
    rw [haccess] at h
    cases h
  | some a =>
    simp only [haccess] at h
    cases hrefresh : Claims.mint? .refresh user rt.clock (s.ttl .refresh) s.issuer
        (rt.drew.entropy.idAt rt.drew.entropy.drawn) with
    | none =>
      rw [hrefresh] at h
      cases h
    | some r =>
      simp only [hrefresh, logInfo, Virtual.runOn_log, Virtual.runOn_attempt_pure, Prod.mk.injEq,
        Except.ok.injEq] at h
      obtain ⟨hpair, hrt⟩ := h
      refine ⟨a, r, haccess, hrefresh, hpair.symm, ?_⟩
      rw [← hrt]
      rfl

/-- A token that was made by a refresh is an access token for the user of the token that
it was made from. -/
theorem of_refresh {token made : String}
    (h : (s.refresh token : ExceptT Failure (Gate.Run D) String).run.runOn rt
      = (.ok (.ok made), rt₁)) :
    ∃ id c, Accepts rt token .refresh id
      ∧ Claims.mint? .access id rt₁.clock s.accessTtl s.issuer
          (rt.entropy.idAt rt.entropy.drawn) = some c
      ∧ made = rt.world.signer.sign c := by
  rw [refresh_eq, Virtual.runOn_attempt_bind] at h
  obtain ⟨id, accepts, hrun⟩ | ⟨-, e, rt₂, -, hrun⟩ := accept_cases rt token .refresh
  · simp only [hrun, Virtual.runOn_attempt_bind, Virtual.runOn_attempt_lift, Virtual.runOn_now,
      runOn_make_gate] at h
    cases hmint : Claims.mint? .access id (asked rt token).clock (s.ttl .access) s.issuer
        ((asked rt token).entropy.idAt (asked rt token).entropy.drawn) with
    | none =>
      rw [hmint] at h
      cases h
    | some c =>
      simp only [hmint, Prod.mk.injEq, Except.ok.injEq] at h
      obtain ⟨hmade, hrt⟩ := h
      refine ⟨id, c, accepts, ?_, hmade.symm⟩
      rw [← hrt]
      exact hmint
  · rw [hrun] at h
    cases h

/-- A token of another kind is refused before anything else is looked at. -/
theorem runOn_verifyLive_of_ne {token : String} {kind : TokenKind} {c : Claims}
    (verified : rt.world.signer.verify? token = some c) (typ : c.typ ≠ kind) :
    (verifyLive token kind : ExceptT Failure (Gate.Run D) Claims).run.runOn rt
      = (.ok (.error (.token .invalid)), rt) := by
  rw [verifyLive, Virtual.runOn_attempt_bind]
  obtain ⟨c', verified', hrun⟩ | ⟨hnone, -⟩ := Gate.verify_cases rt token
  · obtain rfl := Option.some.inj (verified.symm.trans verified')
    rw [hrun]
    dsimp only
    rw [if_pos typ]
    rfl
  · cases verified.symm.trans hnone

theorem runOn_accept_of_ne {token : String} {kind : TokenKind} {c : Claims}
    (verified : rt.world.signer.verify? token = some c) (typ : c.typ ≠ kind) :
    (accept token kind : ExceptT Failure (Gate.Run D) Uuid).run.runOn rt
      = (.ok (.error (.token .invalid)), rt) := by
  rw [accept, Virtual.runOn_attempt_bind, runOn_verifyLive_of_ne verified typ]

/-- An access token is not revoked as a refresh token. -/
theorem runOn_invalidateRefresh_of_ne {token : String} {c : Claims}
    (verified : rt.world.signer.verify? token = some c) (typ : c.typ ≠ .refresh) :
    (invalidateRefresh token : ExceptT Failure (Gate.Run D) Unit).run.runOn rt
      = (.ok (.error (.token .invalid)), rt) := by
  rw [invalidateRefresh, Virtual.runOn_attempt_bind]
  obtain ⟨c', verified', hrun⟩ | ⟨hnone, -⟩ := Gate.verify_cases rt token
  · obtain rfl := Option.some.inj (verified.symm.trans verified')
    rw [hrun]
    dsimp only
    rw [if_pos typ]
    rfl
  · cases verified.symm.trans hnone

end TokenService

namespace Gate

variable {D : Denylist} {s : TokenService}

/-- The tokens that a turn makes, in the order in which they are made.  A refresh makes a
token for the user of its own; nothing but the answer comes after the making. -/
def Turn.minted (t : Turn) (s : TokenService) (rt : Runtime (Gate D)) : List Minted :=
  match t.call, (t.take s rt).1 with
  | .issue user, .ok (.ok (.issued pair)) =>
      [{ token := pair.accessToken, kind := .access, user
         jti := rt.entropy.idAt rt.entropy.drawn, issued := (t.take s rt).2.clock },
       { token := pair.refreshToken, kind := .refresh, user
         jti := rt.entropy.idAt (rt.entropy.drawn + 1), issued := (t.take s rt).2.clock }]
  | .refresh token, .ok (.ok (.renewed made)) =>
      ((rt.world.signer.verify? token).bind Claims.userId?).toList.map fun user =>
        { token := made, kind := .access, user
          jti := rt.entropy.idAt rt.entropy.drawn, issued := (t.take s rt).2.clock }
  | _, _ => []

section

variable {rt : Runtime (Gate D)} {t : Turn}

theorem Turn.of_issued {user : Uuid} {pair : TokenPair} (hcall : t.call = .issue user)
    (h : (t.take s rt).1 = .ok (.ok (.issued pair))) :
    (s.issue user : ExceptT Failure (Run D) TokenPair).run.runOn (t.enter rt)
      = (.ok (.ok pair), (t.take s rt).2) := by
  rw [Turn.take, hcall, Call.run, Virtual.runOn_attempt_bind] at h ⊢
  generalize (s.issue user : ExceptT Failure (Run D) TokenPair).run.runOn (t.enter rt) = result
    at h ⊢
  rcases result with ⟨_ | _ | _, rt₁⟩
  · cases h
  · cases h
  · cases h
    rfl

theorem Turn.of_renewed {token made : String} (hcall : t.call = .refresh token)
    (h : (t.take s rt).1 = .ok (.ok (.renewed made))) :
    (s.refresh token : ExceptT Failure (Run D) String).run.runOn (t.enter rt)
      = (.ok (.ok made), (t.take s rt).2) := by
  rw [Turn.take, hcall, Call.run, Virtual.runOn_attempt_bind] at h ⊢
  generalize (s.refresh token : ExceptT Failure (Run D) String).run.runOn (t.enter rt) = result
    at h ⊢
  rcases result with ⟨_ | _ | _, rt₁⟩
  · cases h
  · cases h
  · cases h
    rfl

/-- A token that is no access token authorizes nobody. -/
theorem Turn.take_authorize_of_ne {token : String} {c : Claims}
    (verified : rt.world.signer.verify? token = some c) (typ : c.typ ≠ .access) (wait : Nat) :
    (Turn.take ⟨wait, .authorize token⟩ s rt).1 = .ok (.error (.token .invalid)) := by
  have verified' : (Turn.enter ⟨wait, .authorize token⟩ rt).world.signer.verify? token = some c :=
    verified
  rw [Turn.take, Call.run, Virtual.runOn_attempt_bind, TokenService.authorize_eq,
    TokenService.runOn_accept_of_ne verified' typ]

/-- A token that is no refresh token makes no tokens. -/
theorem Turn.take_refresh_of_ne {token : String} {c : Claims}
    (verified : rt.world.signer.verify? token = some c) (typ : c.typ ≠ .refresh) (wait : Nat) :
    (Turn.take ⟨wait, .refresh token⟩ s rt).1 = .ok (.error (.token .invalid)) := by
  have verified' : (Turn.enter ⟨wait, .refresh token⟩ rt).world.signer.verify? token = some c :=
    verified
  rw [Turn.take, Call.run, Virtual.runOn_attempt_bind, TokenService.refresh_eq,
    Virtual.runOn_attempt_bind, TokenService.runOn_accept_of_ne verified' typ]

theorem Turn.take_invalidateRefresh_of_ne {token : String} {c : Claims}
    (verified : rt.world.signer.verify? token = some c) (typ : c.typ ≠ .refresh) (wait : Nat) :
    (Turn.take ⟨wait, .invalidateRefresh token⟩ s rt).1 = .ok (.error (.token .invalid)) := by
  have verified' : (Turn.enter ⟨wait, .invalidateRefresh token⟩ rt).world.signer.verify? token
      = some c := verified
  rw [Turn.take, Call.run, Virtual.runOn_attempt_bind,
    TokenService.runOn_invalidateRefresh_of_ne verified' typ]

/-- What a refresh makes is an access token for the user of its own token. -/
theorem Turn.minted_refresh {token made : String} {c : Claims} {user : Uuid} {wait : Nat}
    (verified : rt.world.signer.verify? token = some c) (owner : c.userId? = some user)
    (h : (Turn.take ⟨wait, .refresh token⟩ s rt).1 = .ok (.ok (.renewed made))) :
    ∃ jti issued, Turn.minted ⟨wait, .refresh token⟩ s rt
      = [⟨made, .access, user, jti, issued⟩] := by
  refine ⟨rt.entropy.idAt rt.entropy.drawn, (Turn.take ⟨wait, .refresh token⟩ s rt).2.clock, ?_⟩
  simp only [Turn.minted, h, verified, Option.bind_some, owner, Option.toList_some, List.map_cons,
    List.map_nil]

/-- A call is made with one signer, and time does not go back. -/
theorem Turn.take_ran (records : rt.observer = .record) :
    (t.take s rt).2.world.signer = rt.world.signer
      ∧ rt.clock.nanos ≤ (t.take s rt).2.clock.nanos := by
  obtain ⟨r, rt₁, seen, added, hrun, ran, -⟩ := call_cases s (t.enter rt) records t.call
  have htake : t.take s rt = (r, rt₁) := hrun
  rw [htake]
  refine ⟨ran.signer, Int.le_trans ?_ ran.clock⟩
  exact Int.le_add_of_nonneg_right (Int.natCast_nonneg _)

/-- What a turn makes reads back. -/
theorem Turn.genuine_of_minted (positive : ∀ kind, 0 < s.ttl kind)
    (issuer : rt.world.signer.issuer = s.issuer) (records : rt.observer = .record)
    (since : 0 ≤ rt.clock.nanos) :
    ∀ m ∈ t.minted s rt, m.Genuine s rt.world.signer := by
  have hlater : 0 ≤ (t.take s rt).2.clock.nanos := Int.le_trans since (take_ran records).2
  intro m hm
  unfold Turn.minted at hm
  split at hm
  · rename_i user pair hcall hanswer
    obtain ⟨a, r, haccess, hrefresh, rfl, hclock⟩ :=
      TokenService.of_issue (of_issued hcall hanswer)
    rw [← hclock] at haccess hrefresh
    simp only [List.mem_cons, List.not_mem_nil, or_false] at hm
    rcases hm with rfl | rfl
    · exact Minted.genuine_of_mint? haccess (positive .access) issuer hlater
    · exact Minted.genuine_of_mint? hrefresh (positive .refresh) issuer hlater
  · rename_i token made hcall hanswer
    obtain ⟨id, c, ⟨c', live, hid, -⟩, hmint, rfl⟩ :=
      TokenService.of_refresh (of_renewed hcall hanswer)
    have hverified : rt.world.signer.verify? token = some c' := live.verified
    rw [hverified, Option.bind_some, hid] at hm
    simp only [Option.toList_some, List.map_cons, List.map_nil, List.mem_singleton] at hm
    rw [hm]
    exact Minted.genuine_of_mint? hmint (positive .access) issuer hlater
  · cases hm

end

/-- The logs, the tokens made and the states of runs that start in 1970 or later with
nothing denied, before a signer that demands the issuer which the service names. -/
inductive Minting (s : TokenService) : List Entry → List Minted → Runtime (Gate D) → Prop
  | start {rt : Runtime (Gate D)} (empty : rt.denials = []) (records : rt.observer = .record)
      (issuer : rt.world.signer.issuer = s.issuer) (since : 0 ≤ rt.clock.nanos) :
      Minting s [] [] rt
  | turn {log : List Entry} {minted : List Minted} {rt : Runtime (Gate D)}
      (earlier : Minting s log minted rt) (t : Turn) :
      Minting s (log ++ [t.entry s rt]) (minted ++ t.minted s rt) (t.take s rt).2

namespace Minting

variable {log : List Entry} {minted : List Minted} {rt : Runtime (Gate D)}

theorem reached (h : Minting s log minted rt) : Reached s log rt := by
  induction h with
  | start empty records => exact .start empty records
  | turn _ t ih => exact ih.turn t

theorem issuer (h : Minting s log minted rt) : rt.world.signer.issuer = s.issuer := by
  induction h with
  | start _ _ issuer _ => exact issuer
  | turn earlier t ih => rw [(Turn.take_ran earlier.reached.denies.records).1, ih]

theorem since (h : Minting s log minted rt) : 0 ≤ rt.clock.nanos := by
  induction h with
  | start _ _ _ since => exact since
  | turn earlier t ih =>
    exact Int.le_trans ih (Turn.take_ran earlier.reached.denies.records).2

/-- Every token that a run has made reads back as its claims. -/
theorem genuine (h : Minting s log minted rt) (positive : ∀ kind, 0 < s.ttl kind) :
    ∀ m ∈ minted, m.Genuine s rt.world.signer := by
  induction h with
  | start => exact nofun
  | turn earlier t ih =>
    have records := earlier.reached.denies.records
    intro m hm
    rw [(Turn.take_ran records).1]
    rcases List.mem_append.1 hm with hm | hm
    · exact ih m hm
    · exact Turn.genuine_of_minted positive earlier.issuer records earlier.since m hm

/-- Tokens with different ids are different texts. -/
theorem nodup_tokens (h : Minting s log minted rt) (positive : ∀ kind, 0 < s.ttl kind)
    (distinct : (minted.map Minted.jti).Nodup) : (minted.map Minted.token).Nodup := by
  rw [List.nodup_iff_pairwise_ne, List.pairwise_map] at distinct ⊢
  refine distinct.imp_of_mem ?_
  intro m n hm hn hjti htoken
  have hread : rt.world.signer.verify? m.token = some (m.claims s) := h.genuine positive m hm
  have hread' : rt.world.signer.verify? n.token = some (n.claims s) := h.genuine positive n hn
  rw [htoken, hread'] at hread
  have htext := congrArg Claims.jti (Option.some.inj hread)
  simp only [Minted.claims] at htext
  exact hjti (Uuid.text_inj.1 htext).symm

/-- A minted token is accepted in its own use for its user, as long as it has not ended
and was not revoked, or its denial lapsed. -/
theorem accepts_iff (h : Minting s log minted rt) (positive : ∀ kind, 0 < s.ttl kind) {m : Minted}
    (hm : m ∈ minted) (t : Turn) (id : Uuid) :
    TokenService.Accepts (t.enter rt) m.token m.kind id
      ↔ id = m.user ∧ (t.enter rt).clock.seconds < m.ending s
        ∧ (Revoked log m.token → Lapsed (t.enter rt) m.token (m.ending s)) := by
  have verified : (t.enter rt).world.signer.verify? m.token = some (m.claims s) :=
    h.genuine positive m hm
  rw [(h.reached.denies.enter t).accepts_iff]
  constructor
  · rintro ⟨c, live, hid, hlapsed⟩
    obtain rfl := Option.some.inj (verified.symm.trans live.verified)
    rw [m.userId?_claims] at hid
    exact ⟨(Option.some.inj hid).symm, live.unexpired, hlapsed⟩
  · rintro ⟨rfl, unexpired, hlapsed⟩
    exact ⟨m.claims s, ⟨verified, rfl, unexpired⟩, m.userId?_claims s, hlapsed⟩

/-- From when to when the tokens that a run has made are accepted.  Each has the whole
second in which it was made and an end that lies its lifetime later.  However long after,
an access token admits its user and nobody else before its end, when it was not revoked
or its denial lapsed at the end, and it is refused by a refresh and by a revocation of
refresh tokens.  A refresh token is accepted on the same terms, and what it then makes is
an access token for its user; it authorizes nobody.  Tokens with different ids are
different. -/
theorem lifetimes (h : Minting s log minted rt) (positive : ∀ kind, 0 < s.ttl kind) :
    (∀ m ∈ minted,
      (∃ c, rt.world.signer.verify? m.token = some c
        ∧ c.iat = m.issued.nanos / 1000000000 ∧ c.exp = c.iat + s.ttl m.kind)
      ∧ ∀ wait, match m.kind with
        | .access =>
            (∀ id, (Turn.take ⟨wait, .authorize m.token⟩ s rt).1 = .ok (.ok (.admitted id))
              ↔ id = m.user ∧ (rt.clock.later wait).seconds < m.ending s
                ∧ (Revoked log m.token → Lapsed (rt.after wait) m.token (m.ending s)))
            ∧ (Turn.take ⟨wait, .refresh m.token⟩ s rt).1 = .ok (.error (.token .invalid))
            ∧ (Turn.take ⟨wait, .invalidateRefresh m.token⟩ s rt).1
              = .ok (.error (.token .invalid))
        | .refresh =>
            (((TokenService.asked (Turn.enter ⟨wait, .refresh m.token⟩ rt) m.token).clock.after?
                s.accessTtl).isSome →
              ((∃ made, (Turn.take ⟨wait, .refresh m.token⟩ s rt).1 = .ok (.ok (.renewed made)))
                ↔ (rt.clock.later wait).seconds < m.ending s
                  ∧ (Revoked log m.token → Lapsed (rt.after wait) m.token (m.ending s))))
            ∧ (∀ made, (Turn.take ⟨wait, .refresh m.token⟩ s rt).1 = .ok (.ok (.renewed made)) →
              ∃ jti issued, Turn.minted ⟨wait, .refresh m.token⟩ s rt
                = [⟨made, .access, m.user, jti, issued⟩])
            ∧ (Turn.take ⟨wait, .authorize m.token⟩ s rt).1 = .ok (.error (.token .invalid)))
      ∧ ((minted.map Minted.jti).Nodup → (minted.map Minted.token).Nodup) := by
  refine ⟨?_, h.nodup_tokens positive⟩
  intro m hm
  have verified : rt.world.signer.verify? m.token = some (m.claims s) := h.genuine positive m hm
  refine ⟨⟨m.claims s, verified, rfl, rfl⟩, ?_⟩
  intro wait
  have accepts := fun call id => h.accepts_iff positive hm ⟨wait, call⟩ id
  cases hkind : m.kind with
  | access =>
    have typ : (m.claims s).typ ≠ .refresh := by
      rw [Minted.claims, hkind]
      exact nofun
    rw [hkind] at accepts
    refine ⟨?_, Turn.take_refresh_of_ne verified typ wait,
      Turn.take_invalidateRefresh_of_ne verified typ wait⟩
    intro id
    rw [Turn.take_authorize_iff rfl]
    exact accepts _ id
  | refresh =>
    have typ : (m.claims s).typ ≠ .access := by
      rw [Minted.claims, hkind]
      exact nofun
    rw [hkind] at accepts
    refine ⟨?_, ?_, Turn.take_authorize_of_ne verified typ wait⟩
    · intro lifetime
      rw [Turn.take_refresh_iff rfl lifetime]
      constructor
      · rintro ⟨id, haccepts⟩
        exact ((accepts _ id).1 haccepts).2
      · intro hlive
        exact ⟨m.user, (accepts _ m.user).2 ⟨rfl, hlive⟩⟩
    · intro made hmade
      exact Turn.minted_refresh verified (m.userId?_claims s) hmade

/-- A pair that is issued a quarter of a second after the start admits its user up to the
last nanosecond of its hour, and not afterwards; its refresh token still makes another. -/
theorem lifetimes_pair :
    ∃ log access refresh rt, Minting (D := .lapsing) .default log [access, refresh] rt
      ∧ (Turn.take ⟨3599749999999, .authorize access.token⟩ .default rt).1
        = .ok (.ok (.admitted ⟨7⟩))
      ∧ (Turn.take ⟨3599750000000, .authorize access.token⟩ .default rt).1
        ≠ .ok (.ok (.admitted ⟨7⟩))
      ∧ (∃ made, (Turn.take ⟨3599750000000, .refresh refresh.token⟩ .default rt).1
        = .ok (.ok (.renewed made)))
      ∧ access.token ≠ refresh.token := by
  have start : Minting .default [] [] opening := .start rfl rfl rfl (by decide)
  have run := start.turn ⟨250000000, .issue ⟨7⟩⟩
  have positive : ∀ kind, 0 < TokenService.default.ttl kind := by
    intro kind
    cases kind <;> decide
  have hclock : (Turn.take ⟨250000000, .issue ⟨7⟩⟩ .default opening).2.clock = ⟨250000000⟩ := rfl
  obtain ⟨a, r, hminted, ha, hr, huser, hending, hending', hjtis⟩ : ∃ a r,
      Turn.minted ⟨250000000, .issue ⟨7⟩⟩ .default opening = [a, r] ∧ a.kind = .access
        ∧ r.kind = .refresh ∧ a.user = ⟨7⟩ ∧ a.ending .default = 3600
        ∧ r.ending .default = 604800 ∧ a.jti ≠ r.jti :=
    ⟨_, _, rfl, rfl, rfl, rfl, rfl, rfl, by decide⟩
  have hunrevoked : ∀ token, ¬ Revoked ([] ++ [Turn.entry ⟨250000000, .issue ⟨7⟩⟩ .default opening])
      token := by
    rintro token ⟨e, he, hrevokes⟩
    rw [List.nil_append, List.mem_singleton] at he
    simp only [he, Turn.entry, Entry.Revokes] at hrevokes
  rw [List.nil_append, hminted] at run
  obtain ⟨hall, hdistinct⟩ := run.lifetimes positive
  have haccess := (hall a (by simp)).2
  have hrefresh := (hall r (by simp)).2
  simp only [ha, hr, huser, hending, hending', hclock] at haccess hrefresh
  have hasked : ∀ token, (TokenService.asked (Turn.enter ⟨3599750000000, .refresh token⟩
      (Turn.take ⟨250000000, .issue ⟨7⟩⟩ .default opening).2) token).clock
      = (((Turn.take ⟨250000000, .issue ⟨7⟩⟩ .default opening).2.clock.later 3599750000000).later
        1000000).later 1000000 := fun _ => rfl
  refine ⟨_, a, r, _, run, ?_, ?_, ?_, ?_⟩
  · exact ((haccess 3599749999999).1 ⟨7⟩).2
      ⟨rfl, by decide, fun revoked => absurd revoked (hunrevoked _)⟩
  · intro h
    exact absurd (((haccess 3599750000000).1 ⟨7⟩).1 h).2.1 (by decide)
  · exact ((hrefresh 3599750000000).1 (by rw [hasked, hclock]; decide)).2
      ⟨by decide, fun revoked => absurd revoked (hunrevoked _)⟩
  · have hne : a.token ≠ r.token := by simpa using hdistinct (by simpa using hjtis)
    exact hne

end Minting

end Gate

end Gatehouse
