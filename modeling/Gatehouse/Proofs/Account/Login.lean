/-
  Gatehouse/Proofs/Account/Login.lean --- which logins are let in.

  After any run of calls, an address and a password are let in exactly when the address
  was registered and the password is the one that was set last for that account, by the
  registration or by a recovery that succeeded.  Calls that failed are of no account.

  Main statement: `Reached.login_iff`.
-/
import Gatehouse.Proofs.Account.Atomicity
import Gatehouse.Proofs.Account.History

set_option autoImplicit false

namespace Gatehouse

/-- Whether a login, made now, gets a pair of tokens. -/
def Turn.Admits (t : Turn) (s : AccountService) (rt : Runtime Premises) (pair : TokenPair) :
    Prop :=
  (t.take s rt).1 = .ok (.ok (.admitted pair))

section

variable {s : AccountService} {t : Turn} {input : LoginInput} {rt : Runtime Premises}

/-- A login gets tokens for the account that lets it in. -/
theorem Turn.Admits.letsIn {pair : TokenPair} (hcall : t.call = .login input)
    (h : t.Admits s rt pair) :
    ∃ user id, s.LetsIn (t.enter rt) input user id ∧ pair.SignedFor rt.world.signer.sign id := by
  unfold Turn.Admits Turn.take at h
  rw [hcall, AccountCall.run, Virtual.runOn_attempt_bind] at h
  obtain ⟨r, rt₁, hrun, -, ⟨user, id, pair', hin, rfl, hsigned⟩ | ⟨-, hr⟩⟩ :=
    s.login_cases (t.enter rt) input
  · rw [hrun] at h
    cases h
    exact ⟨user, id, hin, hsigned⟩
  · rw [hrun] at h
    rcases r with c | e | pair'
    · cases h
    · cases h
    · exact absurd rfl (hr pair')

theorem AccountService.LetsIn.admits {user : User} {id : Uuid} (hcall : t.call = .login input)
    (h : s.LetsIn (t.enter rt) input user id) : ∃ pair, t.Admits s rt pair := by
  obtain ⟨r, rt₁, hrun, -, ⟨_, _, pair, -, rfl, -⟩ | ⟨hnone, -⟩⟩ := s.login_cases (t.enter rt) input
  · refine ⟨pair, ?_⟩
    unfold Turn.Admits Turn.take
    rw [hcall, AccountCall.run, Virtual.runOn_attempt_bind, hrun]
    rfl
  · exact absurd h (hnone user id)

/-- Only the stores and the turn decide whether a login is let in. -/
theorem AccountService.LetsIn.congr {rt' : Runtime Premises} {user : User} {id : Uuid}
    (same : (t.enter rt').world.memory = (t.enter rt).world.memory)
    (h : s.LetsIn (t.enter rt) input user id) : s.LetsIn (t.enter rt') input user id :=
  ⟨by rw [same]; exact h.found, h.accepted, h.named, h.accessEnds, h.refreshEnds⟩

/-- A call that did not succeed leaves what the next one finds. -/
theorem Turn.enter_take_of_not_ok {u : Turn} (t : Turn)
    (fresh : DrawsUnused (u.call.run s).run (u.enter rt))
    (failed : ∀ answer, (u.take s rt).1 ≠ .ok (.ok answer)) :
    (t.enter (u.take s rt).2).world.memory = (t.enter rt).world.memory := by
  have same : (u.take s rt).2.world.memory = (u.enter rt).world.memory :=
    u.call.memory_eq_of_not_ok s fresh rfl failed
  change { (u.take s rt).2.world.memory with outages := t.outages } = _
  rw [same]
  rfl

end

namespace Agrees

variable {accepts : (password hash : String) → Bool} {log : List Entry} {s : AccountService}
  {t : Turn} {input : LoginInput} {rt : Runtime Premises}

/-- Whoever is let in has registered and knows the password that was set last. -/
theorem of_letsIn (h : Agrees accepts log rt.world.memory.users) (faithful : t.Faithful accepts)
    {user : User} {id : Uuid} (hin : s.LetsIn (t.enter rt) input user id) :
    Opened log input.email id ∧ passwordOf log id = some input.password := by
  obtain ⟨hemail, j, hj⟩ := Memory.findByEmail_some hin.found
  have hj : rt.world.memory.users.get? j = some user := hj
  obtain rfl : j = id := Option.some.inj ((h.keyed hj).symm.trans hin.named)
  obtain ⟨p, hp, haccepts⟩ := h.password hj
  have hverified := faithful.verify _ _ _ hin.accepted
  rw [hp, (haccepts input.password).1 hverified.symm, ← hemail]
  exact ⟨h.opened hj, rfl⟩

/-- Whoever has registered and knows the password that was set last is let in. -/
theorem letsIn (h : Agrees accepts log rt.world.memory.users) (faithful : t.Faithful accepts)
    (reads : t.outages.userReads = false)
    (verifies : ∀ hash, ∃ b, t.verify input.password hash = .ok b)
    (access : (t.clock.after? s.tokens.accessTtl).isSome)
    (refresh : (t.clock.after? s.tokens.refreshTtl).isSome)
    {id : Uuid} (hopened : Opened log input.email id)
    (hpassword : passwordOf log id = some input.password) :
    ∃ user, s.LetsIn (t.enter rt) input user id := by
  obtain ⟨u, hu, hemail⟩ := h.present hopened
  obtain ⟨v, hfind⟩ := Memory.findByEmail_of_kept (s := (t.enter rt).world.memory) reads hu
  obtain ⟨hv, j, hj⟩ := Memory.findByEmail_some hfind
  obtain rfl : j = id := h.unique hj hu hv
  obtain rfl : v = u := Option.some.inj (hj.symm.trans hu)
  obtain ⟨p, hp, haccepts⟩ := h.password hu
  obtain rfl : input.password = p := Option.some.inj (hpassword.symm.trans hp)
  obtain ⟨b, hb⟩ := verifies v.passwordHash
  have htrue : b = true := (faithful.verify _ _ _ hb).trans ((haccepts _).2 rfl)
  refine ⟨v, ?_, ?_, h.keyed hu, access, refresh⟩
  · rw [← hemail]
    exact hfind
  · rw [← htrue]
    exact hb

end Agrees

/-- After every run a login that can be checked is let in exactly when its address was
registered and its password is the one that was set last for that account, and then the
tokens are for that account.  A call that does not succeed changes none of this. -/
theorem Reached.login_iff {s : AccountService} {accepts : (password hash : String) → Bool}
    {log : List Entry} {rt : Runtime Premises} (h : Reached s accepts log rt) {t : Turn}
    {input : LoginInput} (hcall : t.call = .login input) (faithful : t.Faithful accepts)
    (reads : t.outages.userReads = false)
    (verifies : ∀ hash, ∃ b, t.verify input.password hash = .ok b)
    (access : (t.clock.after? s.tokens.accessTtl).isSome)
    (refresh : (t.clock.after? s.tokens.refreshTtl).isSome) :
    ((∃ pair, t.Admits s rt pair)
        ↔ ∃ id, Opened log input.email id ∧ passwordOf log id = some input.password)
      ∧ (∀ pair, t.Admits s rt pair → ∃ id, Opened log input.email id
          ∧ passwordOf log id = some input.password ∧ pair.SignedFor rt.world.signer.sign id)
      ∧ ∀ u : Turn, DrawsUnused (u.call.run s).run (u.enter rt) →
          (∀ answer, (u.take s rt).1 ≠ .ok (.ok answer)) →
          ((∃ pair, t.Admits s (u.take s rt).2 pair) ↔ ∃ pair, t.Admits s rt pair) := by
  refine ⟨⟨?_, ?_⟩, ?_, ?_⟩
  · rintro ⟨pair, hadmits⟩
    obtain ⟨user, id, hin, -⟩ := hadmits.letsIn hcall
    exact ⟨id, h.agrees.of_letsIn faithful hin⟩
  · rintro ⟨id, hopened, hpassword⟩
    obtain ⟨user, hin⟩ := h.agrees.letsIn faithful reads verifies access refresh hopened hpassword
    exact hin.admits hcall
  · intro pair hadmits
    obtain ⟨user, id, hin, hsigned⟩ := hadmits.letsIn hcall
    obtain ⟨hopened, hpassword⟩ := h.agrees.of_letsIn faithful hin
    exact ⟨id, hopened, hpassword, hsigned⟩
  · intro u fresh failed
    have same := u.enter_take_of_not_ok t fresh failed
    constructor
    · rintro ⟨pair, hadmits⟩
      obtain ⟨user, id, hin, -⟩ := hadmits.letsIn hcall
      exact (hin.congr same.symm).admits hcall
    · rintro ⟨pair, hadmits⟩
      obtain ⟨user, id, hin, -⟩ := hadmits.letsIn hcall
      exact (hin.congr same).admits hcall

/-! ## A run -/

/-- Which hashes accept a password when hashing writes a mark before it. -/
def Premises.plainAccepts (password hash : String) : Bool := hash == "#" ++ password

/-- A call on stores that work, in 1970. -/
def Turn.plain (call : AccountCall) : Turn where
  outages := .none
  hash := (Premises.plain .none).hash
  verify := (Premises.plain .none).verify
  clock := ⟨0⟩
  call := call

theorem Turn.plain_faithful (call : AccountCall) :
    (Turn.plain call).Faithful Premises.plainAccepts where
  hash := by
    intro q h hq p
    cases hq
    rw [Premises.plainAccepts, beq_iff_eq, String.append_right_inj, eq_comm]
  verify := by
    intro p h b hb
    exact (Except.ok.inj hb).symm

/-- The state in which a service starts that keeps nothing yet. -/
def Premises.start : Runtime Premises := .new .counting (.plain .none)

/-- A registration, and its entry. -/
def SignupInput.bob : SignupInput := { name := "Bob", email := "bob@yas.org", password := "two" }

def Entry.bob : Entry where
  call := .signup .bob
  answer := .ok (.ok (.registered ((User.new "Bob" "bob@yas.org" "#two").kept ⟨1#128⟩)))
  owner := none

theorem Entry.bob_eq : (Turn.plain (.signup .bob)).entry .plain Premises.start = .bob := by
  have answer : ((Turn.plain (.signup .bob)).take .plain Premises.start).1
      = .ok (.ok (.registered ((User.new "Bob" "bob@yas.org" "#two").kept ⟨1#128⟩))) := by
    apply ok_of_toOption
    decide +kernel
  unfold Turn.entry
  rw [answer]
  rfl

theorem Reached.bob : ∃ rt, Reached .plain Premises.plainAccepts [.bob] rt := by
  have fresh : DrawsUnused ((Turn.plain (.signup .bob)).call.run .plain).run
      ((Turn.plain (.signup .bob)).enter Premises.start) := by
    intro n _ _
    exact ⟨rfl, fun kind => by cases kind <;> rfl⟩
  have reached : Reached .plain Premises.plainAccepts _ _ :=
    (Reached.start rfl).turn (Turn.plain (.signup .bob)) (Turn.plain_faithful _) fresh
  rw [Entry.bob_eq] at reached
  exact ⟨_, reached⟩

/-- Whoever registered is let in with the password of the registration. -/
theorem Reached.login_iff_bob :
    ∃ rt, Reached .plain Premises.plainAccepts [.bob] rt
      ∧ ∃ pair, (Turn.plain (.login { email := "bob@yas.org", password := "two" })).Admits
          .plain rt pair := by
  obtain ⟨rt, reached⟩ := Reached.bob
  refine ⟨rt, reached, (Reached.login_iff reached rfl (Turn.plain_faithful _) rfl
    (fun _ => ⟨_, rfl⟩) (by decide) (by decide)).1.2 ⟨⟨1#128⟩, ?_, ?_⟩⟩
  · exact ⟨.bob, List.mem_singleton_self _, .bob, _, rfl, rfl, rfl, rfl⟩
  · rfl

end Gatehouse
