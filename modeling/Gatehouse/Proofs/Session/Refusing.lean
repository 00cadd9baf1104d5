/-
  Gatehouse/Proofs/Session/Refusing.lean --- what a refused token is told.

  Nothing is known of the store of denied tokens here: it denies what it likes, and a
  question may fail.  Whoever presents a token is told one and the same failure, whatever
  is wrong with it, and is never let in because the store could not be asked.  The store is
  only asked about tokens that have passed everything else.  A refresh may still be given
  up, when the new token would end at no point in time.

  Main definitions: `DenyStore`, `Desk`, `Desk.FailsClosed`.
  Main statements: `Desk.fails_closed_iff`, `Desk.refresh_closed_usual`,
  `Desk.not_always_closed`.
-/
import Gatehouse.Proofs.Config.Lifetimes

set_option autoImplicit false

namespace Gatehouse

/-! ## Stores that may fail -/

/-- A store of denied tokens, of which nothing is known.  A question may fail, and leaves
the store as it is. -/
structure DenyStore where
  State : Type
  /-- Whether a token is denied. -/
  ask : State → Instant → String → Except Failure Bool
  /-- Denies a token for a length of time. -/
  put : State → Instant → String → Ttl → Except Failure Unit × State
  /-- The nanoseconds for which a call lasts. -/
  pace : State → Nat

/-- A signer and a store of denied tokens. -/
structure Desk (S : DenyStore) where
  signer : JwtSigner
  denied : S.State

namespace Desk

variable {S : DenyStore}

/-- A run of the token service. -/
abbrev Run (S : DenyStore) := Virtual (Desk S)

/-- The state after the store was called. -/
def waited (rt : Runtime (Desk S)) : Runtime (Desk S) :=
  { rt with clock := rt.clock.later (S.pace rt.world.denied) }

instance : TokenSigner (Run S) where
  sign claims := do return (← ExceptT.lift Virtual.world).signer.sign claims
  verify token := do (← ExceptT.lift Virtual.world).signer.verify token

instance : RevocationStore (Run S) where
  put token ttl := ExceptT.mk (modifyGet fun rt =>
    let (result, denied) := S.put rt.world.denied rt.clock token ttl
    (result, { waited rt with world := { rt.world with denied } }))
  denies token := ExceptT.mk (modifyGet fun rt =>
    (S.ask rt.world.denied rt.clock token, waited rt))

variable (rt : Runtime (Desk S)) (token : String) (kind : TokenKind)

theorem runOn_sign (c : Claims) (rt : Runtime (Desk S)) :
    (TokenSigner.sign c : ExceptT Failure (Run S) String).run.runOn rt
      = (.ok (.ok (rt.world.signer.sign c)), rt) := rfl

theorem runOn_denies :
    (RevocationStore.denies token : ExceptT Failure (Run S) Bool).run.runOn rt
      = (.ok (S.ask rt.world.denied rt.clock token), waited rt) := rfl

/-! ## Answers -/

/-- What the store answers when it is asked about a token. -/
def lookup : Except Failure Bool := S.ask rt.world.denied rt.clock token

/-- Whether a token of a kind is verified and has not expired. -/
def Passes : Prop := ∃ c, rt.world.signer.Passes rt.clock token kind c

/-- Whether a token of a kind passes, speaks of a user and is not denied. -/
def Accepts (id : Uuid) : Prop :=
  ∃ c, rt.world.signer.Passes rt.clock token kind c ∧ c.userId? = some id
    ∧ lookup rt token = .ok false

/-- Whether a failure is the one that a token is refused with: the failure of the store, if
the token passes and the store fails, and the same failure for every other reason. -/
structure Refuses (e : Failure) : Prop where
  answered : ∀ denied, lookup rt token = .ok denied → e = .token .invalid
  passed : ∀ e', lookup rt token = .error e' → Passes rt token kind → e = e'
  failed : ¬ Passes rt token kind → e = .token .invalid

/-- Whether an answer fails closed.  When the store answers, it is a success or the one
failure; when the store fails, it is the failure of the store for a token that passes, and
the one failure for any other. -/
structure FailsClosed {α : Type} (answer : Except Failure α) : Prop where
  ok_iff : (∃ a, answer = .ok a) ↔ ∃ id, Accepts rt token kind id
  answered : ∀ denied, lookup rt token = .ok denied →
    (∃ a, answer = .ok a) ∨ answer = .error (.token .invalid)
  passed : ∀ e, lookup rt token = .error e → Passes rt token kind → answer = .error e
  failed : ∀ e, lookup rt token = .error e → ¬ Passes rt token kind →
    answer = .error (.token .invalid)

variable {rt token kind}

theorem FailsClosed.ok {α : Type} {a : α} {id : Uuid} (accepts : Accepts rt token kind id) :
    FailsClosed rt token kind (.ok a : Except Failure α) := by
  have ⟨c, _, _, hanswer⟩ := accepts
  have answers : ∀ e, lookup rt token ≠ .error e := fun e h => nomatch h.symm.trans hanswer
  exact ⟨iff_of_true ⟨a, rfl⟩ ⟨id, accepts⟩, fun _ _ => .inl ⟨a, rfl⟩,
    fun e h => absurd h (answers e), fun e h => absurd h (answers e)⟩

theorem FailsClosed.error {α : Type} {e : Failure} (hnone : ∀ id, ¬ Accepts rt token kind id)
    (refuses : Refuses rt token kind e) :
    FailsClosed rt token kind (.error e : Except Failure α) where
  ok_iff := iff_of_false nofun fun ⟨id, accepts⟩ => hnone id accepts
  answered denied h := .inr (congrArg _ (refuses.answered denied h))
  passed e' h passes := congrArg _ (refuses.passed e' h passes)
  failed _ _ fails := congrArg _ (refuses.failed fails)

/-! ## Calls -/

open TokenService (verifyLive ensureNotRevoked subject authorize)

/-- What both uses of a token have in common. -/
def vet (token : String) (kind : TokenKind) : ExceptT Failure (Run S) Uuid := do
  let claims ← verifyLive token kind
  ensureNotRevoked token
  subject claims

variable (rt token kind)

/-- A token is accepted after the store was asked, or it is refused; the store is what it
was. -/
theorem vet_cases :
    (∃ id, Accepts rt token kind id
        ∧ (vet token kind).run.runOn rt = (.ok (.ok id), waited rt))
      ∨ (∀ id, ¬ Accepts rt token kind id) ∧ ∃ e rt₁, rt₁.world = rt.world
        ∧ Refuses rt token kind e ∧ (vet token kind).run.runOn rt = (.ok (.error e), rt₁) := by
  rw [vet, Virtual.runOn_attempt_bind]
  obtain ⟨c, passes, hrun⟩ | ⟨hnone, rt₁, quiet, hrun⟩ :=
    TokenService.runOn_verifyLive_cases rt Desk.signer token rfl kind
  · have only : ∀ {id}, Accepts rt token kind id →
        c.userId? = some id ∧ lookup rt token = .ok false := by
      rintro id ⟨d, passes', hsome, hanswer⟩
      rw [passes'.unique passes] at hsome
      exact ⟨hsome, hanswer⟩
    have refuses : ∀ {e}, (∀ denied, lookup rt token = .ok denied → e = .token .invalid) →
        (∀ e', lookup rt token = .error e' → e = e') → Refuses rt token kind e :=
      fun answered failing =>
        ⟨answered, fun e' h _ => failing e' h, fun hnot => absurd ⟨c, passes⟩ hnot⟩
    rw [hrun]
    dsimp only
    rw [ensureNotRevoked, Virtual.runOn_attempt_bind, Virtual.runOn_attempt_bind, runOn_denies,
      ← lookup]
    cases hlookup : lookup rt token with
    | error e =>
      have hnone : ∀ id, ¬ Accepts rt token kind id := by
        intro id accepts
        cases hlookup.symm.trans (only accepts).2
      refine Or.inr ⟨hnone, e, waited rt, rfl, refuses ?_ ?_, rfl⟩
      · intro denied hanswer
        cases hlookup.symm.trans hanswer
      · intro e' hanswer
        exact Except.error.inj (hlookup.symm.trans hanswer)
    | ok denied =>
      have refused : Refuses rt token kind (.token .invalid) := by
        refine refuses (fun _ _ => rfl) ?_
        intro e' hanswer
        cases hlookup.symm.trans hanswer
      cases denied with
      | true =>
        have hnone : ∀ id, ¬ Accepts rt token kind id := by
          intro id accepts
          cases hlookup.symm.trans (only accepts).2
        exact Or.inr ⟨hnone, _, waited rt, rfl, refused, rfl⟩
      | false =>
        rw [subject]
        cases hid : c.userId? with
        | none =>
          have hnone : ∀ id, ¬ Accepts rt token kind id := by
            intro id accepts
            cases hid.symm.trans (only accepts).1
          exact Or.inr ⟨hnone, _, waited rt, rfl, refused, rfl⟩
        | some id => exact Or.inl ⟨id, ⟨c, passes, hid, hlookup⟩, rfl⟩
  · rw [hrun]
    have fails : ¬ Passes rt token kind := by
      rintro ⟨c, passes⟩
      exact hnone c passes
    refine Or.inr ⟨?_, _, rt₁, quiet.world, ?_, rfl⟩
    · rintro id ⟨c, passes, -⟩
      exact hnone c passes
    · exact ⟨fun _ _ => rfl, fun _ _ passes => absurd passes fails, fun _ => rfl⟩

/-- An access token fails closed. -/
theorem authorize_ends :
    ∃ answer rt₁, (authorize token : ExceptT Failure (Run S) Uuid).run.runOn rt = (.ok answer, rt₁)
      ∧ rt₁.world = rt.world ∧ FailsClosed rt token .access answer := by
  have heq : (authorize token : ExceptT Failure (Run S) Uuid) = vet token .access := rfl
  rw [heq]
  obtain ⟨id, accepts, hrun⟩ | ⟨hnone, e, rt₁, hworld, refuses, hrun⟩ :=
    vet_cases rt token .access
  · exact ⟨_, _, hrun, rfl, .ok accepts⟩
  · exact ⟨_, _, hrun, hworld, .error hnone refuses⟩

/-- Whether a refresh token is accepted and the access token for it would end at no point
in time. -/
def Endless (s : TokenService) : Prop :=
  (∃ id, Accepts rt token .refresh id) ∧ (waited rt).clock.after? s.accessTtl = none

/-- A refresh token fails closed, unless the new token would end at no point in time. -/
theorem refresh_ends (s : TokenService) :
    ∃ result rt₁, (s.refresh token : ExceptT Failure (Run S) String).run.runOn rt = (result, rt₁)
      ∧ rt₁.world = rt.world
      ∧ (Endless rt token s ∧ result = .error .overflow
        ∨ ¬ Endless rt token s ∧ ∃ answer, result = .ok answer
          ∧ FailsClosed rt token .refresh answer) := by
  have heq : (s.refresh token : ExceptT Failure (Run S) String)
      = vet token .refresh >>= fun user =>
        ExceptT.lift now >>= fun t => s.make .access user t := by
    simp only [TokenService.refresh, vet, bind_assoc]
  rw [heq, Virtual.runOn_attempt_bind]
  obtain ⟨id, accepts, hrun⟩ | ⟨hnone, e, rt₁, hworld, refuses, hrun⟩ :=
    vet_cases rt token .refresh
  · rw [hrun]
    dsimp only
    rw [Virtual.runOn_attempt_bind, Virtual.runOn_attempt_lift, Virtual.runOn_now]
    dsimp only
    obtain ⟨hend, hmake⟩ | ⟨c, hmake, hsome, -⟩ := s.make_cases (waited rt)
      (fun w c => w.signer.sign c) runOn_sign .access id (waited rt).clock
    · exact ⟨_, _, hmake, rfl, .inl ⟨⟨⟨id, accepts⟩, hend⟩, rfl⟩⟩
    · refine ⟨_, _, hmake, rfl, .inr ⟨?_, _, rfl, .ok accepts⟩⟩
      rintro ⟨-, hend⟩
      exact Option.isSome_iff_ne_none.1 hsome hend
  · rw [hrun]
    refine ⟨_, _, rfl, hworld, .inr ⟨?_, _, rfl, .error hnone refuses⟩⟩
    rintro ⟨⟨id, accepts⟩, -⟩
    exact hnone id accepts

/-- What authorizing with a token gives. -/
def authorized : Except Cut (Except Failure Uuid) × Runtime (Desk S) :=
  (authorize token : ExceptT Failure (Run S) Uuid).run.runOn rt

/-- What a refresh with a token gives. -/
def refreshed (s : TokenService) : Except Cut (Except Failure String) × Runtime (Desk S) :=
  (s.refresh token : ExceptT Failure (Run S) String).run.runOn rt

/-- A refresh token fails closed exactly when the call is not given up, and leaves the
store of denied tokens as it is. -/
theorem refreshed_ends (s : TokenService) :
    (refreshed rt token s).2.world = rt.world
      ∧ ((∃ answer, (refreshed rt token s).1 = .ok answer ∧ FailsClosed rt token .refresh answer)
        ↔ ¬ Endless rt token s)
      ∧ ((refreshed rt token s).1 = .error .overflow ↔ Endless rt token s) := by
  obtain ⟨result, rt₁, hrun, hworld, hend⟩ := refresh_ends rt token s
  rw [refreshed, hrun]
  refine ⟨hworld, ?_⟩
  dsimp only
  rcases hend with ⟨endless, rfl⟩ | ⟨ends, answer, rfl, closed⟩
  · exact ⟨iff_of_false nofun fun ends => ends endless, iff_of_true rfl endless⟩
  · exact ⟨iff_of_true ⟨answer, rfl, closed⟩ ends, iff_of_false nofun ends⟩

/-- Neither call changes the store of denied tokens.  An access token fails closed, whatever
it is, whatever the clock reads and whatever the store says.  So does a refresh token, unless
it is accepted and the new access token would end at no point in time; then the call is
given up. -/
theorem fails_closed_iff (s : TokenService) :
    (authorized rt token).2.world = rt.world
      ∧ (refreshed rt token s).2.world = rt.world
      ∧ (∃ answer, (authorized rt token).1 = .ok answer ∧ FailsClosed rt token .access answer)
      ∧ ((∃ answer, (refreshed rt token s).1 = .ok answer ∧ FailsClosed rt token .refresh answer)
        ↔ ¬ Endless rt token s)
      ∧ ((refreshed rt token s).1 = .error .overflow ↔ Endless rt token s) := by
  obtain ⟨answer, rt₁, hrun, hworld, closed⟩ := authorize_ends rt token
  obtain ⟨hworld', hclosed, hgivenUp⟩ := refreshed_ends rt token s
  rw [authorized, hrun]
  exact ⟨hworld, hworld', ⟨answer, rfl, closed⟩, hclosed, hgivenUp⟩

/-- From 1970 to the year 9999 a refresh token fails closed too, when the lifetime of access
tokens is not too long. -/
theorem refresh_closed_usual {s : TokenService} (positive : 0 < s.accessTtl)
    (short : s.accessTtl ≤ Instant.longestUsual) (usual : (waited rt).clock.Usual) :
    ∃ answer, (refreshed rt token s).1 = .ok answer ∧ FailsClosed rt token .refresh answer := by
  refine (refreshed_ends rt token s).2.1.2 ?_
  rintro ⟨-, hend⟩
  have late : s.EndsLate .access (waited rt).clock :=
    (Instant.after?_eq_none_iff usual.since positive).1 hend
  exact absurd late (s.not_endsLate usual short)

/-! ## At the end of the calendar -/

/-- A store that denies nothing and answers at once. -/
def lenient : DenyStore where
  State := Unit
  ask _ _ _ := .ok false
  put s _ _ _ := (.ok (), s)
  pace _ := 0

/-- The claims of a refresh token that ends after the last second of the calendar. -/
def outlasting : Claims where
  sub := "f47ac10b-58cc-4372-a567-0e02b2c3d479"
  iat := 1709280000
  exp := 8210266880000
  iss := "yas"
  jti := "0d9c2f5e-0001-4000-8000-000000000001"
  typ := .refresh

/-- A signer of the default service. -/
def signerOfDefault : JwtSigner := { secret := "key", issuer := "yas" }

/-- The state of a desk with a lenient store at a point in time. -/
def openedAt (t : Instant) : Runtime (Desk lenient) :=
  { Runtime.new .counting { signer := signerOfDefault, denied := () } with clock := t }

/-- Whether at a point in time a refresh with some token is answered by neither a success nor
a failure, though the token is accepted. -/
structure Unanswered (t : Instant) (token : String) (s : TokenService) : Prop where
  accepts : ∃ id, Accepts (openedAt t) token .refresh id
  givenUp : (refreshed (openedAt t) token s).1 = .error .overflow
  unclosed : ¬ ∃ answer, (refreshed (openedAt t) token s).1 = .ok answer
    ∧ FailsClosed (openedAt t) token .refresh answer

theorem unanswered_of_endless {t : Instant} {exp : Int} {s : TokenService} (inRange : IsInt64 exp)
    (since : 0 ≤ exp) (unexpired : t.seconds < exp)
    (endless : (waited (openedAt t)).clock.after? s.accessTtl = none) :
    Unanswered t (signerOfDefault.sign { outlasting with exp }) s := by
  have verified : signerOfDefault.verify? (signerOfDefault.sign { outlasting with exp })
      = some { outlasting with exp } :=
    JwtSigner.verify?_sign ⟨(by decide : IsInt64 1709280000), inRange⟩ rfl since
  have owner : outlasting.userId? = some ⟨0xf47ac10b58cc4372a5670e02b2c3d479⟩ := rfl
  have accepts : ∃ id,
      Accepts (openedAt t) (signerOfDefault.sign { outlasting with exp }) .refresh id :=
    ⟨_, { outlasting with exp }, ⟨verified, rfl, unexpired⟩, owner, rfl⟩
  obtain ⟨-, hclosed, hgivenUp⟩ :=
    refreshed_ends (openedAt t) (signerOfDefault.sign { outlasting with exp }) s
  exact ⟨accepts, hgivenUp.2 ⟨accepts, endless⟩, fun closed => hclosed.1 closed ⟨accepts, endless⟩⟩

/-- With an access lifetime of nine trillion seconds, which the check of a configuration
accepts, a refresh token that is accepted in March of 2024 is answered by neither a success
nor a failure.  With the built-in lifetimes, so is one within the last hour of the
calendar. -/
theorem not_always_closed :
    (AppConfig.withAccessExpiry 9000000000000).validate = .ok ()
      ∧ Unanswered (.ofMillis 1709280000000)
        (signerOfDefault.sign { outlasting with exp := 1709884800 })
        (AppConfig.withAccessExpiry 9000000000000).tokenService
      ∧ Unanswered (.ofMillis 8210266876000000) (signerOfDefault.sign outlasting) .default :=
  ⟨rfl, unanswered_of_endless (by decide) (by decide) (by decide) (by decide),
    unanswered_of_endless (by decide) (by decide) (by decide) (by decide)⟩

end Desk

end Gatehouse
