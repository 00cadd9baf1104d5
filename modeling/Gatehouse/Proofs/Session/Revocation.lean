/-
  Gatehouse/Proofs/Session/Revocation.lean --- a revoked token stays revoked.

  A denial lasts in whole seconds from the moment of the revocation, and a token expires
  at a whole second, so the denial of a token outlives it.  After any run of calls the
  denied tokens are those that were revoked, and so a token is accepted exactly when it
  is verified, of the wanted kind, of a user, not expired, and not revoked itself.

  That is said of the moment of a call.  A call that lasts has two of them: the clock is
  read first and the denylist answers later.  Only when the token ends in between can they
  disagree, since its denial may have lapsed by then; this case is stated apart.

  Main definitions: `Gate.Call`, `Gate.Reached`, `Gate.Revoked`, `Gate.Entitles`,
  `Gate.Slips`.
  Main statements: `Gate.Denies.denied_iff`, `Gate.Reached.authorize_refresh_iff`.
-/
import Gatehouse.Proofs.Session.Gate
import Gatehouse.Proofs.Session.Signing
import Gatehouse.Proofs.Text.Identifiers

set_option autoImplicit false

namespace Gatehouse.Gate

variable {D : Denylist}

/-! ## Runs of calls -/

/-- A call that is about tokens. -/
inductive Call where
  | issue (user : Uuid)
  | refresh (token : String)
  | authorize (token : String)
  | invalidate (token : String)
  | invalidateRefresh (token : String)
  | logout (input : LogoutInput)
  deriving DecidableEq, Repr, Inhabited

/-- What a call gives when it succeeds. -/
inductive Answer where
  | issued (pair : TokenPair)
  | renewed (token : String)
  | admitted (user : Uuid)
  | done
  deriving DecidableEq, Repr, Inhabited

/-- The workflow of a call. -/
def Call.run (s : TokenService) : Call → ExceptT Failure (Run D) Answer
  | .issue user => do return .issued (← s.issue user)
  | .refresh token => do return .renewed (← s.refresh token)
  | .authorize token => do return .admitted (← TokenService.authorize token)
  | .invalidate token => do
      TokenService.invalidate token
      return .done
  | .invalidateRefresh token => do
      TokenService.invalidateRefresh token
      return .done
  | .logout input => do
      AccountService.logout input
      return .done

/-- A call, and the nanoseconds that pass before it. -/
structure Turn where
  wait : Nat
  call : Call
  deriving DecidableEq, Repr, Inhabited

namespace Turn

/-- The state in which the call is made. -/
def enter (t : Turn) (rt : Runtime (Gate D)) : Runtime (Gate D) := rt.after t.wait

/-- What the call gives, and the state after it. -/
def take (t : Turn) (s : TokenService) (rt : Runtime (Gate D)) :
    Except Cut (Except Failure Answer) × Runtime (Gate D) :=
  (t.call.run s).run.runOn (t.enter rt)

end Turn

/-- A call that was made, with what was observed meanwhile. -/
structure Entry where
  call : Call
  answer : Except Cut (Except Failure Answer)
  observed : List Observation

/-- The entry of a turn. -/
def Turn.entry (t : Turn) (s : TokenService) (rt : Runtime (Gate D)) : Entry where
  call := t.call
  answer := (t.take s rt).1
  observed := (t.take s rt).2.observed.drop rt.observed.length

/-- The logs and states of runs that start with nothing denied and keep what they
observe. -/
inductive Reached (s : TokenService) : List Entry → Runtime (Gate D) → Prop
  | start {rt : Runtime (Gate D)} (empty : rt.denials = []) (records : rt.observer = .record) :
      Reached s [] rt
  | turn {log : List Entry} {rt : Runtime (Gate D)} (earlier : Reached s log rt) (t : Turn) :
      Reached s (log ++ [t.entry s rt]) (t.take s rt).2

/-- Whether a call revoked a token.  Trouble with the access token of a logout is only
observed. -/
def Entry.Revokes (e : Entry) (token : String) : Prop :=
  match e.call, e.answer with
  | .invalidate t, .ok (.ok _) => t = token
  | .invalidateRefresh t, .ok (.ok _) => t = token
  | .logout input, .ok (.ok _) =>
      input.refreshToken = token ∨ input.accessToken = some token ∧ e.observed = []
  | _, _ => False

/-- Whether a call of a log revoked a token. -/
def Revoked (log : List Entry) (token : String) : Prop := ∃ e ∈ log, e.Revokes token

theorem revoked_concat {log : List Entry} {e : Entry} {token : String} :
    Revoked (log ++ [e]) token ↔ Revoked log token ∨ e.Revokes token := by
  constructor
  · rintro ⟨a, ha, hrevokes⟩
    rcases List.mem_append.1 ha with ha | ha
    · exact Or.inl ⟨a, ha, hrevokes⟩
    · rw [List.mem_singleton.1 ha] at hrevokes
      exact Or.inr hrevokes
  · rintro (⟨a, ha, hrevokes⟩ | hrevokes)
    · exact ⟨a, List.mem_append_left _ ha, hrevokes⟩
    · exact ⟨e, List.mem_append_right _ (List.mem_singleton_self e), hrevokes⟩

/-! ## What each call revokes -/

section

variable (s : TokenService) (rt : Runtime (Gate D))

/-- A logout fails and revokes nothing, or it revokes the refresh token, and the access
token too unless trouble with it is observed. -/
theorem logout_cases (records : rt.observer = .record) (input : LogoutInput) :
    (∃ e rt₁, Ran rt [] [] rt₁
        ∧ (AccountService.logout input : ExceptT Failure (Run D) Unit).run.runOn rt
          = (.ok (.error e), rt₁))
      ∨ ∃ d seen added rt₁, d.token = input.refreshToken ∧ Ran rt seen (d :: added) rt₁
        ∧ (AccountService.logout input : ExceptT Failure (Run D) Unit).run.runOn rt
          = (.ok (.ok ()), rt₁)
        ∧ ∀ token, (∃ a ∈ added, a.token = token) ↔ input.accessToken = some token ∧ seen = [] := by
  rw [AccountService.logout, Virtual.runOn_attempt_bind]
  have first := TokenService.invalidateRefresh_ends rt input.refreshToken
  generalize Virtual.runOn (TokenService.invalidateRefresh input.refreshToken).run rt = result
    at first ⊢
  cases first with
  | @refused e rt₁ ran => exact Or.inl ⟨e, rt₁, ran, rfl⟩
  | @denied d rt₁ same ran =>
    refine Or.inr ⟨d, ?_⟩
    cases input.accessToken with
    | none =>
      refine ⟨[], [], rt₁, same, ran, rfl, ?_⟩
      intro token
      simp
    | some access =>
      have second := TokenService.invalidate_ends rt₁ access
      simp only [Virtual.runOn_attempt_bind, Virtual.runOn_attempt_lift]
      generalize Virtual.runOn (TokenService.invalidate access).run rt₁ = result at second ⊢
      cases second with
      | @refused e rt₂ ran₂ =>
        simp only [Virtual.runOn_attempt_lift, observeWarning]
        rw [Virtual.runOn_observe rt₂ _ (by rw [ran₂.observer, ran.observer, records])]
        refine ⟨_, [], _, same, (ran.trans ran₂).trans (.observed_record rt₂ _), rfl, ?_⟩
        intro token
        simp
      | @denied a rt₂ same₂ ran₂ =>
        refine ⟨_, [a], _, same, ran.trans ran₂, rfl, ?_⟩
        intro token
        simp [same₂]

/-- A refresh makes a token when its own is accepted, unless the new one would end at no
point in time. -/
theorem refresh_cases (token : String) :
    ∃ r rt₁, (s.refresh token : ExceptT Failure (Run D) String).run.runOn rt = (r, rt₁)
      ∧ Ran rt [] [] rt₁
      ∧ ((∃ id t, TokenService.Accepts rt token .refresh id ∧ r = .ok (.ok t))
        ∨ ((∀ id, ¬ TokenService.Accepts rt token .refresh id)
            ∨ (TokenService.asked rt token).clock.after? s.accessTtl = none)
          ∧ ∀ t, r ≠ .ok (.ok t)) := by
  rw [TokenService.refresh_eq, Virtual.runOn_attempt_bind]
  obtain ⟨id, accepts, hrun⟩ | ⟨hnone, e, rt₁, ran, hrun⟩ :=
    TokenService.accept_cases rt token .refresh
  · rw [hrun]
    dsimp only
    rw [Virtual.runOn_attempt_bind, Virtual.runOn_attempt_lift, Virtual.runOn_now]
    dsimp only
    have ran := (TokenService.asked_ran rt token).trans (.drew _)
    obtain ⟨hend, hmake⟩ | ⟨c, hmake, -⟩ := s.make_cases (TokenService.asked rt token)
      (fun w c => w.signer.sign c) runOn_sign .access id (TokenService.asked rt token).clock
    · exact ⟨_, _, hmake, ran, Or.inr ⟨Or.inr hend, nofun⟩⟩
    · exact ⟨_, _, hmake, ran, Or.inl ⟨id, _, accepts, rfl⟩⟩
  · rw [hrun]
    exact ⟨_, _, rfl, ran, Or.inr ⟨Or.inl hnone, nofun⟩⟩

/-- A call denies the tokens that it revokes and no others. -/
theorem call_cases (records : rt.observer = .record) (call : Call) :
    ∃ r rt₁ seen added, (call.run s).run.runOn rt = (r, rt₁) ∧ Ran rt seen added rt₁
      ∧ ∀ token, (∃ d ∈ added, d.token = token) ↔ Entry.Revokes ⟨call, r, seen⟩ token := by
  cases call with
  | issue user =>
    rw [Call.run, Virtual.runOn_attempt_bind]
    obtain ⟨rt₁, quiet, ⟨-, hrun⟩ | ⟨pair, hrun, -⟩⟩ :=
      s.issue_cases rt (fun w c => w.signer.sign c) runOn_sign user
    · rw [hrun]
      exact ⟨_, _, _, _, rfl, .quiet quiet, fun token => by simp [Entry.Revokes]⟩
    · rw [hrun]
      exact ⟨_, _, _, _, rfl, .quiet quiet, fun token => by simp [Entry.Revokes]⟩
  | refresh token =>
    rw [Call.run, Virtual.runOn_attempt_bind]
    obtain ⟨r, rt₁, hrun, ran, -⟩ := refresh_cases s rt token
    rw [hrun]
    rcases r with c | e | t
    · exact ⟨_, _, _, _, rfl, ran, fun token => by simp [Entry.Revokes]⟩
    · exact ⟨_, _, _, _, rfl, ran, fun token => by simp [Entry.Revokes]⟩
    · exact ⟨_, _, _, _, rfl, ran, fun token => by simp [Entry.Revokes]⟩
  | authorize token =>
    rw [Call.run, Virtual.runOn_attempt_bind, TokenService.authorize_eq]
    obtain ⟨id, -, hrun⟩ | ⟨-, e, rt₁, ran, hrun⟩ := TokenService.accept_cases rt token .access
    · rw [hrun]
      exact ⟨_, _, _, _, rfl, TokenService.asked_ran rt token, fun token => by simp [Entry.Revokes]⟩
    · rw [hrun]
      exact ⟨_, _, _, _, rfl, ran, fun token => by simp [Entry.Revokes]⟩
  | invalidate t =>
    rw [Call.run, Virtual.runOn_attempt_bind]
    have ends := TokenService.invalidate_ends rt t
    generalize Virtual.runOn (TokenService.invalidate t).run rt = result at ends ⊢
    cases ends with
    | refused ran => exact ⟨_, _, _, _, rfl, ran, fun token => by simp [Entry.Revokes]⟩
    | denied same ran => exact ⟨_, _, _, _, rfl, ran, fun token => by simp [Entry.Revokes, same]⟩
  | invalidateRefresh t =>
    rw [Call.run, Virtual.runOn_attempt_bind]
    have ends := TokenService.invalidateRefresh_ends rt t
    generalize Virtual.runOn (TokenService.invalidateRefresh t).run rt = result at ends ⊢
    cases ends with
    | refused ran => exact ⟨_, _, _, _, rfl, ran, fun token => by simp [Entry.Revokes]⟩
    | denied same ran => exact ⟨_, _, _, _, rfl, ran, fun token => by simp [Entry.Revokes, same]⟩
  | logout input =>
    rw [Call.run, Virtual.runOn_attempt_bind]
    obtain ⟨e, rt₁, ran, hrun⟩ | ⟨d, seen, added, rt₁, hd, ran, hrun, hadded⟩ :=
      logout_cases rt records input
    · rw [hrun]
      exact ⟨_, _, _, _, rfl, ran, fun token => by simp [Entry.Revokes]⟩
    · rw [hrun]
      refine ⟨_, _, _, _, rfl, ran, ?_⟩
      intro token
      simp only [List.mem_cons, or_and_right, exists_or, exists_eq_left, hd, hadded]
      rfl

end

/-! ## Denied and revoked tokens -/

/-- Whether the denial of a token that ends at some second has lapsed when a question that
is asked now arrives: the token has ended by then, and the denylist no longer denies it. -/
def Lapsed (rt : Runtime (Gate D)) (token : String) (ending : Int) : Prop :=
  ending ≤ rt.arrival.seconds ∧ ¬ TokenService.Denied rt token

/-- Whether a token entitles a user now: the signer verifies it as a token of the kind for
the user, the clock reads less than its end, and it was not revoked. -/
def Entitles (log : List Entry) (rt : Runtime (Gate D)) (token : String) (kind : TokenKind)
    (id : Uuid) : Prop :=
  ∃ c, TokenService.Live rt token kind c ∧ c.userId? = some id ∧ ¬ Revoked log token

/-- Whether a token would entitle a user now but for its revocation, and ends while the
denylist is being asked, which has dropped the denial by then. -/
def Slips (log : List Entry) (rt : Runtime (Gate D)) (token : String) (kind : TokenKind)
    (id : Uuid) : Prop :=
  ∃ c, TokenService.Live rt token kind c ∧ c.userId? = some id ∧ Revoked log token
    ∧ Lapsed rt token c.exp

section

variable {log : List Entry} {rt : Runtime (Gate D)} {token : String} {kind : TokenKind}
  {id : Uuid}

/-- A token that ended before the clock was read, or ends after the denylist has answered,
does not slip through. -/
theorem not_slips_of_apart (apart : ∀ c, rt.world.signer.verify? token = some c →
    c.exp ≤ rt.clock.seconds ∨ rt.arrival.seconds < c.exp) : ¬ Slips log rt token kind id := by
  rintro ⟨c, live, -, -, hended, -⟩
  rcases apart c live.verified with hover | hbefore
  · exact Int.not_le.2 live.unexpired hover
  · exact Int.not_le.2 hbefore hended

/-- No token slips through when the denylist answers at the instant that the clock read. -/
theorem not_slips_at_once (atOnce : rt.arrival = rt.clock) : ¬ Slips log rt token kind id := by
  refine not_slips_of_apart fun c _ => ?_
  rw [atOnce]
  exact (Int.lt_or_le rt.clock.seconds c.exp).symm

theorem live_of_entitles_or_slips
    (h : Entitles log rt token kind id ∨ Slips log rt token kind id) :
    ∃ c, TokenService.Live rt token kind c := by
  rcases h with ⟨c, live, -⟩ | ⟨c, live, -⟩
  · exact ⟨c, live⟩
  · exact ⟨c, live⟩

end

/-- Whether the denied tokens are those that a log says were revoked, each denied from
some time in the past until it has expired. -/
structure Denies (log : List Entry) (rt : Runtime (Gate D)) : Prop where
  revoked : ∀ token, (∃ d ∈ rt.denials, d.token = token) ↔ Revoked log token
  outlives : ∀ d ∈ rt.denials, d.Outlives rt.world.signer
  past : ∀ d ∈ rt.denials, d.since.nanos ≤ rt.clock.nanos
  records : rt.observer = .record

namespace Denies

variable {log : List Entry} {rt rt₁ : Runtime (Gate D)}

theorem enter (h : Denies log rt) (t : Turn) : Denies log (t.enter rt) where
  revoked := h.revoked
  outlives := h.outlives
  past d hd := Int.le_trans (h.past d hd) (Int.le_add_of_nonneg_right (Int.natCast_nonneg _))
  records := h.records

/-- One more call keeps the denied tokens those that were revoked. -/
theorem concat (h : Denies log rt) {e : Entry} {seen : List Observation} {added : List Denial}
    (ran : Ran rt seen added rt₁)
    (revokes : ∀ token, (∃ d ∈ added, d.token = token) ↔ e.Revokes token) :
    Denies (log ++ [e]) rt₁ where
  revoked := by
    intro token
    rw [revoked_concat, ← h.revoked, ← revokes, ran.denials]
    constructor
    · rintro ⟨d, hd, htoken⟩
      rcases List.mem_append.1 hd with hd | hd
      · exact Or.inl ⟨d, hd, htoken⟩
      · exact Or.inr ⟨d, hd, htoken⟩
    · rintro (⟨d, hd, htoken⟩ | ⟨d, hd, htoken⟩)
      · exact ⟨d, List.mem_append_left _ hd, htoken⟩
      · exact ⟨d, List.mem_append_right _ hd, htoken⟩
  outlives := by
    intro d hd
    rw [ran.signer]
    rcases List.mem_append.1 (ran.denials ▸ hd) with hd | hd
    · exact h.outlives d hd
    · exact ran.outlives d hd
  past := by
    intro d hd
    rcases List.mem_append.1 (ran.denials ▸ hd) with hd | hd
    · exact Int.le_trans (h.past d hd) ran.clock
    · exact ran.past d hd
  records := ran.observer.trans h.records

/-- The denylist denies a token exactly when it was revoked, unless the denial lapsed. -/
theorem denied_iff (h : Denies log rt) {token : String} {c : Claims}
    (verified : rt.world.signer.verify? token = some c) :
    TokenService.Denied rt token ↔ Revoked log token ∧ ¬ Lapsed rt token c.exp := by
  rw [← h.revoked]
  constructor
  · intro denied
    exact ⟨D.denies_only denied, fun lapsed => lapsed.2 denied⟩
  · rintro ⟨⟨d, hd, rfl⟩, hnot⟩
    refine Classical.byContradiction fun hfree => ?_
    have hbefore : rt.arrival.seconds < c.exp :=
      Int.not_le.1 fun hended => hnot ⟨hended, hfree⟩
    -- the last denial of the token decides, and it outlives the token like every other
    obtain ⟨e, hlast⟩ := Denial.last?_of_mem hd
    obtain ⟨he, htoken⟩ := Denial.last?_token hlast
    obtain ⟨c', verified', hends⟩ := h.outlives e he
    rw [htoken, verified] at verified'
    obtain rfl := Option.some.inj verified'
    have hclock := Instant.seconds_lt_iff.1 hbefore
    have hsince := Int.le_trans (h.past e he) rt.clock_le_arrival
    exact hfree (D.denies_alive hlast hsince (Int.lt_of_lt_of_le hclock hends))

/-- A token is accepted when it is live, of a user, and not revoked, or revoked with a
denial that lapsed. -/
theorem accepts_iff (h : Denies log rt) {token : String} {kind : TokenKind} {id : Uuid} :
    TokenService.Accepts rt token kind id
      ↔ ∃ c, TokenService.Live rt token kind c ∧ c.userId? = some id
        ∧ (Revoked log token → Lapsed rt token c.exp) := by
  refine exists_congr fun c => and_congr_right fun live => and_congr_right fun _ => ?_
  rw [h.denied_iff live.verified, not_and, Classical.not_not]

theorem accepts_iff_entitles_or_slips (h : Denies log rt) {token : String} {kind : TokenKind}
    {id : Uuid} :
    TokenService.Accepts rt token kind id
      ↔ Entitles log rt token kind id ∨ Slips log rt token kind id := by
  rw [h.accepts_iff]
  constructor
  · rintro ⟨c, live, hid, hlapsed⟩
    by_cases hrevoked : Revoked log token
    · exact Or.inr ⟨c, live, hid, hrevoked, hlapsed hrevoked⟩
    · exact Or.inl ⟨c, live, hid, hrevoked⟩
  · rintro (⟨c, live, hid, hnot⟩ | ⟨c, live, hid, -, lapsed⟩)
    · exact ⟨c, live, hid, fun hrevoked => absurd hrevoked hnot⟩
    · exact ⟨c, live, hid, fun _ => lapsed⟩

end Denies

/-- After every run the denied tokens are those that were revoked. -/
theorem Reached.denies {s : TokenService} {log : List Entry} {rt : Runtime (Gate D)}
    (h : Reached s log rt) : Denies log rt := by
  induction h with
  | @start rt empty records =>
    refine ⟨?_, ?_, ?_, records⟩
    · intro token
      rw [empty]
      constructor
      · rintro ⟨d, hd, -⟩
        exact nomatch hd
      · rintro ⟨e, he, -⟩
        exact nomatch he
    · rw [empty]
      exact nofun
    · rw [empty]
      exact nofun
  | @turn log rt earlier t ih =>
    obtain ⟨r, rt₁, seen, added, hrun, ran, revokes⟩ :=
      call_cases s (t.enter rt) (ih.enter t).records t.call
    have htake : t.take s rt = (r, rt₁) := hrun
    have hseen : rt₁.observed.drop rt.observed.length = seen := by
      rw [ran.observed]
      exact List.drop_left
    have hentry : t.entry s rt = ⟨t.call, r, seen⟩ := by
      rw [Turn.entry, htake, hseen]
    rw [hentry, htake]
    exact (ih.enter t).concat ran revokes

/-! ## Which tokens are accepted -/

section

variable {s : TokenService} {rt : Runtime (Gate D)} {t : Turn} {token : String}

theorem Turn.take_authorize_iff (hcall : t.call = .authorize token) (id : Uuid) :
    (t.take s rt).1 = .ok (.ok (.admitted id))
      ↔ TokenService.Accepts (t.enter rt) token .access id := by
  rw [Turn.take, hcall, Call.run, Virtual.runOn_attempt_bind, TokenService.authorize_eq]
  obtain ⟨id', accepts, hrun⟩ | ⟨hnone, e, rt₁, -, hrun⟩ :=
    TokenService.accept_cases (t.enter rt) token .access
  · rw [hrun]
    constructor
    · intro h
      cases h
      exact accepts
    · rintro ⟨c, live, hid, -⟩
      obtain ⟨c', live', hid', -⟩ := accepts
      obtain rfl := Option.some.inj (live'.verified.symm.trans live.verified)
      obtain rfl := Option.some.inj (hid'.symm.trans hid)
      rfl
  · rw [hrun]
    constructor
    · intro h
      cases h
    · intro accepts
      exact absurd accepts (hnone id)

theorem Turn.take_refresh_iff (hcall : t.call = .refresh token)
    (lifetime : ((TokenService.asked (t.enter rt) token).clock.after? s.accessTtl).isSome) :
    (∃ made, (t.take s rt).1 = .ok (.ok (.renewed made)))
      ↔ ∃ id, TokenService.Accepts (t.enter rt) token .refresh id := by
  rw [Turn.take, hcall, Call.run, Virtual.runOn_attempt_bind]
  obtain ⟨r, rt₁, hrun, -, ⟨id, made, accepts, rfl⟩ | ⟨hnone, hr⟩⟩ :=
    refresh_cases s (t.enter rt) token
  · rw [hrun]
    exact ⟨fun _ => ⟨id, accepts⟩, fun _ => ⟨made, rfl⟩⟩
  · rw [hrun]
    constructor
    · rintro ⟨made, h⟩
      rcases r with c | e | made'
      · cases h
      · cases h
      · exact absurd rfl (hr made')
    · rintro ⟨id, accepts⟩
      rcases hnone with hnone | hend
      · exact absurd accepts (hnone id)
      · rw [hend] at lifetime
        cases lifetime

end

/-- After every run and however long after, a token authorizes a user exactly when it
entitles that user, or slips through; and a refresh token makes another token on the same
terms, when the one that it would make has an end.  A token that does not end between the
reading of the clock and the answer of the denylist never slips through, and none does when
the two are at one instant.  So a call that is made at one instant accepts just what
entitles: a revoked token is not accepted again, also when its denial has lapsed or was
replaced, and no other token is refused for it. -/
theorem Reached.authorize_refresh_iff {s : TokenService} {log : List Entry}
    {rt : Runtime (Gate D)} (h : Reached s log rt) (wait : Nat) (token : String) :
    (∀ id, (Turn.take ⟨wait, .authorize token⟩ s rt).1 = .ok (.ok (.admitted id))
        ↔ Entitles log (rt.after wait) token .access id
          ∨ Slips log (rt.after wait) token .access id)
      ∧ (((TokenService.asked (rt.after wait) token).clock.after? s.accessTtl).isSome →
        ((∃ made, (Turn.take ⟨wait, .refresh token⟩ s rt).1 = .ok (.ok (.renewed made)))
          ↔ ∃ id, Entitles log (rt.after wait) token .refresh id
            ∨ Slips log (rt.after wait) token .refresh id))
      ∧ ((∀ c, rt.world.signer.verify? token = some c →
          c.exp ≤ (rt.clock.later wait).seconds ∨ (rt.after wait).arrival.seconds < c.exp) →
        ∀ kind id, ¬ Slips log (rt.after wait) token kind id)
      ∧ ((rt.after wait).arrival = (rt.after wait).clock →
        ∀ kind id, ¬ Slips log (rt.after wait) token kind id) := by
  have denies : Denies log (rt.after wait) := h.denies.enter ⟨wait, .authorize token⟩
  refine ⟨?_, ?_, ?_, ?_⟩
  · intro id
    rw [Turn.take_authorize_iff rfl]
    exact denies.accepts_iff_entitles_or_slips
  · intro lifetime
    rw [Turn.take_refresh_iff (t := ⟨wait, .refresh token⟩) rfl lifetime]
    exact exists_congr fun id => denies.accepts_iff_entitles_or_slips
  · intro apart kind id
    exact not_slips_of_apart apart
  · intro atOnce kind id
    exact not_slips_at_once atOnce

/-- A signer before a denylist that is reached in a millisecond, takes another to come back,
and drops a denial as soon as it may. -/
def lapsingGate (denied : List Denial) : Gate .lapsing where
  signer := { secret := "secret", issuer := "yas" }
  denied := denied
  reach _ := 1000000
  pace _ := 1000000

/-- The state before anything was denied. -/
def opening : Runtime (Gate .lapsing) := .new .counting (lapsingGate [])

/-- A token that has not ended is revoked, and the denial takes effect a millisecond after
the clock was read. -/
theorem Turn.take_invalidate_lapsing {s : TokenService} {rt : Runtime (Gate .lapsing)}
    {denied : List Denial} {token : String} {c : Claims} {now : Instant} (wait : Nat)
    (world : rt.world = lapsingGate denied) (later : rt.clock.later wait = now)
    (verified : (lapsingGate denied).signer.verify? token = some c) (left : now.seconds < c.exp) :
    ∃ rt₁, Turn.take ⟨wait, .invalidate token⟩ s rt = (.ok (.ok .done), rt₁)
      ∧ rt₁.world = lapsingGate (denied
        ++ [⟨token, now.later 1000000, .ofSeconds (c.exp - now.seconds).toNat⟩])
      ∧ rt₁.clock = (now.later 1000000).later 1000000 := by
  subst later
  have verified' : (rt.after wait).world.signer.verify? token = some c := by
    rw [Runtime.after, world]
    exact verified
  obtain ⟨rt₁, quiet, hrun⟩ :=
    TokenService.runOn_invalidate_of_left (rt.after wait) token verified' left rfl
  rw [Turn.take, Call.run, Virtual.runOn_attempt_bind, Turn.enter, hrun]
  refine ⟨rt₁, rfl, ?_, ?_⟩
  · rw [quiet.world]
    simp only [Runtime.called, Runtime.after, Runtime.arrival, world]
    rfl
  · rw [quiet.clock]
    simp only [Runtime.called, Runtime.after, Runtime.arrival, world]
    rfl

/-- A run in which a pair is issued a quarter of a second after the start, and its access
token is revoked ten and another twenty seconds later. -/
theorem exists_revoked_twice :
    ∃ access refresh a r log rt, Reached (D := .lapsing) .default log rt
      ∧ log.map Entry.call = [.issue ⟨7⟩, .invalidate access, .invalidate access]
      ∧ (∀ token, Revoked log token ↔ token = access) ∧ refresh ≠ access
      ∧ (rt.world.signer.verify? access = some a ∧ a.exp = 3600)
      ∧ (rt.world.signer.verify? refresh = some r ∧ r.typ = .refresh ∧ r.userId? = some ⟨7⟩
        ∧ r.exp = 604800)
      ∧ rt.world = lapsingGate [⟨access, ⟨10251000000⟩, .ofSeconds 3590⟩,
        ⟨access, ⟨30253000000⟩, .ofSeconds 3570⟩]
      ∧ rt.clock = ⟨30254000000⟩ := by
  have start : Reached .default [] opening := .start rfl rfl
  have first := start.turn ⟨250000000, .issue ⟨7⟩⟩
  obtain ⟨a, r, rt₁, htake₁, hworld₁, hclock₁, haccess, hrefresh, haexp, hrtyp, hruser, hrexp⟩ :
      ∃ (a r : Claims) (rt₁ : Runtime (Gate .lapsing)),
        Turn.take ⟨250000000, .issue ⟨7⟩⟩ .default opening
          = (.ok (.ok (.issued ⟨opening.world.signer.sign a, opening.world.signer.sign r⟩)), rt₁)
        ∧ rt₁.world = lapsingGate [] ∧ rt₁.clock = ⟨250000000⟩
        ∧ opening.world.signer.verify? (opening.world.signer.sign a) = some a
        ∧ opening.world.signer.verify? (opening.world.signer.sign r) = some r
        ∧ a.exp = 3600 ∧ r.typ = .refresh ∧ r.userId? = some ⟨7⟩ ∧ r.exp = 604800 := by
    refine ⟨_, _, _, rfl, rfl, rfl, ?_, ?_, rfl, rfl, Uuid.parse?_text _, rfl⟩
    · exact JwtSigner.verify?_sign ⟨by decide, by decide⟩ rfl (by decide)
    · exact JwtSigner.verify?_sign ⟨by decide, by decide⟩ rfl (by decide)
  generalize opening.world.signer.sign a = access at htake₁ haccess
  generalize opening.world.signer.sign r = refresh at htake₁ hrefresh
  have hdistinct : refresh ≠ access := by
    rintro rfl
    rw [Option.some.inj (hrefresh.symm.trans haccess), haexp] at hrexp
    exact absurd hrexp (by decide)
  rw [htake₁] at first
  have second := first.turn ⟨10000000000, .invalidate access⟩
  obtain ⟨rt₂, htake₂, hworld₂, hclock₂⟩ := Turn.take_invalidate_lapsing (s := .default)
    10000000000 hworld₁ (by rw [hclock₁]) haccess
    (by rw [haexp]; exact (by decide : (Instant.mk 10250000000).seconds < 3600))
  rw [htake₂] at second
  have third := second.turn ⟨20000000000, .invalidate access⟩
  obtain ⟨rt₃, htake₃, hworld₃, hclock₃⟩ := Turn.take_invalidate_lapsing (s := .default)
    20000000000 hworld₂ (by rw [hclock₂]) haccess
    (by rw [haexp]; exact (by decide : (Instant.mk 30252000000).seconds < 3600))
  rw [htake₃] at third
  rw [haexp] at hworld₃
  refine ⟨access, refresh, a, r, _, rt₃, third, rfl, ?_, hdistinct, ?_, ?_, hworld₃, hclock₃⟩
  · intro token
    simp [Revoked, Turn.entry, Entry.Revokes, htake₂, htake₃, eq_comm]
  · rw [hworld₃]
    exact ⟨haccess, haexp⟩
  · rw [hworld₃]
    exact ⟨hrefresh, hrtyp, hruser, hrexp⟩

/-- An access token that was revoked twice admits nobody in the last nanosecond before its
end, though the denylist answers only afterwards, and nobody once the denylist has dropped
both denials.  The refresh token that was issued with it makes another token in the last
nanosecond before its own end, and none from there on. -/
theorem Reached.authorize_refresh_iff_twice :
    ∃ access refresh log rt, Reached (D := .lapsing) .default log rt
      ∧ log.map Entry.call = [.issue ⟨7⟩, .invalidate access, .invalidate access]
      ∧ Revoked log access ∧ rt.clock = ⟨30254000000⟩
      ∧ (∀ id, (Turn.take ⟨3569745999999, .authorize access⟩ .default rt).1
        ≠ .ok (.ok (.admitted id)))
      ∧ ¬ TokenService.Denied (rt.after 3570000000000) access
      ∧ (∀ id, (Turn.take ⟨3570000000000, .authorize access⟩ .default rt).1
        ≠ .ok (.ok (.admitted id)))
      ∧ (∃ made, (Turn.take ⟨604769745999999, .refresh refresh⟩ .default rt).1
        = .ok (.ok (.renewed made)))
      ∧ (∀ made, (Turn.take ⟨604769746000000, .refresh refresh⟩ .default rt).1
        ≠ .ok (.ok (.renewed made))) := by
  obtain ⟨access, refresh, a, r, log, rt, reached, hcalls, hrevoked, hdistinct, ⟨haccess, haexp⟩,
    ⟨hrefresh, hrtyp, hruser, hrexp⟩, hworld, hclock⟩ := exists_revoked_twice
  have revoked : Revoked log access := (hrevoked access).2 rfl
  have denied_iff : ∀ wait, TokenService.Denied (rt.after wait) access
      ↔ (((Instant.mk 30254000000).later wait).later 1000000).nanos
        < 30253000000 + (Ttl.ofSeconds 3570).nanos := by
    intro wait
    simp only [TokenService.Denied, Runtime.arrival, Runtime.after, hworld, hclock]
    exact (congrArg (· = true) (Denylist.lapsing_denies [⟨access, ⟨10251000000⟩, .ofSeconds 3590⟩]
      ⟨access, ⟨30253000000⟩, .ofSeconds 3570⟩ _)).to_iff.trans decide_eq_true_iff
  have hasked : ∀ wait, (TokenService.asked (rt.after wait) refresh).clock
      = (((Instant.mk 30254000000).later wait).later 1000000).later 1000000 := by
    intro wait
    simp only [TokenService.asked, Runtime.called, Runtime.arrival, Runtime.after, hworld, hclock]
    rfl
  have unexpired : ∀ {wait token kind c d}, rt.world.signer.verify? token = some d →
      TokenService.Live (rt.after wait) token kind c →
        ((Instant.mk 30254000000).later wait).seconds < d.exp := by
    intro wait token kind c d verified live
    rw [← hclock, Option.some.inj (verified.symm.trans live.verified)]
    exact live.unexpired
  have lastly := Reached.authorize_refresh_iff reached 3569745999999 access
  have afterwards := Reached.authorize_refresh_iff reached 3570000000000 access
  have lastly' := Reached.authorize_refresh_iff reached 604769745999999 refresh
  have afterwards' := Reached.authorize_refresh_iff reached 604769746000000 refresh
  refine ⟨access, refresh, log, rt, reached, hcalls, revoked, hclock, ?_, ?_, ?_, ?_, ?_⟩
  · intro id h
    rcases (lastly.1 id).1 h with ⟨c, -, -, hnot⟩ | ⟨c, -, -, -, -, hfree⟩
    · exact hnot revoked
    · exact hfree ((denied_iff _).2 (by decide))
  · rw [denied_iff]
    decide
  · intro id h
    obtain ⟨c, live⟩ := live_of_entitles_or_slips ((afterwards.1 id).1 h)
    exact absurd (unexpired haccess live) (by rw [haexp]; decide)
  · refine (lastly'.2.1 ?_).2 ⟨⟨7⟩, Or.inl ⟨r, ⟨hrefresh, hrtyp, ?_⟩, hruser, ?_⟩⟩
    · rw [hasked]
      decide
    · simp only [hrexp, Runtime.after, hclock]
      decide
    · rw [hrevoked]
      exact hdistinct
  · intro made h
    obtain ⟨id, accepted⟩ := (afterwards'.2.1 (by rw [hasked]; decide)).1 ⟨made, h⟩
    obtain ⟨c, live⟩ := live_of_entitles_or_slips accepted
    exact absurd (unexpired hrefresh live) (by rw [hrexp]; decide)

end Gatehouse.Gate
