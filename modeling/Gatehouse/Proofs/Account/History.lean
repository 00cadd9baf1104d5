/-
  Gatehouse/Proofs/Account/History.lean --- accounts as a log of calls tells of them.

  Calls are made one after another on the same stores, while outages, failures of the
  hasher and the time may change between them.  From the log of the calls alone follows
  which account each address has and which password was set last for it; the users that
  the stores keep agree with that after every run.

  Main definitions: `Turn`, `Entry`, `Opened`, `passwordOf`, `Reached`, `Agrees`.
  Main statement: `Reached.agrees`.
-/
import Gatehouse.Proofs.Account.Outcome

set_option autoImplicit false

namespace Gatehouse

/-! ## Runs of calls -/

/-- A call, and what there is around it: which stores are out of order meanwhile, what
hashing and checking a password give, and what the clock reads. -/
structure Turn where
  outages : Outages
  hash : String → Except Failure String
  verify : (password hash : String) → Except Failure Bool
  clock : Instant
  call : AccountCall

namespace Turn

/-- The state in which the call is made. -/
def enter (t : Turn) (rt : Runtime Premises) : Runtime Premises :=
  { rt with
    clock := t.clock
    world := { rt.world with
      hash := t.hash
      verify := t.verify
      memory := { rt.world.memory with outages := t.outages } } }

/-- What the call gives, and the state after it. -/
def take (t : Turn) (s : AccountService) (rt : Runtime Premises) :
    Except Cut (Except Failure AccountAnswer) × Runtime Premises :=
  (t.call.run s).run.runOn (t.enter rt)

/-- Whether the hasher of a turn goes by `accepts`: a hash that it makes accepts the one
password that it was made of, and what it says of a hash is what the hash accepts.  It
may fail. -/
structure Faithful (t : Turn) (accepts : (password hash : String) → Bool) : Prop where
  hash : ∀ q h, t.hash q = .ok h → ∀ p, accepts p h = true ↔ p = q
  verify : ∀ p h b, t.verify p h = .ok b → b = accepts p h

end Turn

/-- A call that was made. -/
structure Entry where
  call : AccountCall
  answer : Except Cut (Except Failure AccountAnswer)
  /-- The user of the recovery token that was presented, if one was. -/
  owner : Option Uuid

/-- The user of the recovery token that a call presents. -/
def AccountCall.owner (s : Memory) : AccountCall → Option Uuid
  | .recoverPassword input => (s.recoveries.get? input.token).map Credential.userId
  | _ => none

/-- The entry of a turn. -/
def Turn.entry (t : Turn) (s : AccountService) (rt : Runtime Premises) : Entry where
  call := t.call
  answer := (t.take s rt).1
  owner := t.call.owner rt.world.memory

/-- The logs and states of runs that start on empty stores, with a hasher that goes by
`accepts`, and with ids and tokens that are not in use when they are drawn. -/
inductive Reached (s : AccountService) (accepts : (password hash : String) → Bool) :
    List Entry → Runtime Premises → Prop
  | start {rt : Runtime Premises} (h : rt.world.memory = .empty) : Reached s accepts [] rt
  | turn {log : List Entry} {rt : Runtime Premises} (earlier : Reached s accepts log rt) (t : Turn)
      (faithful : t.Faithful accepts)
      (fresh : DrawsUnused (t.call.run s).run (t.enter rt)) :
      Reached s accepts (log ++ [t.entry s rt]) (t.take s rt).2

/-! ## What a log says -/

namespace Entry

/-- Whether a call registered an address and answered with the id. -/
def Opens (e : Entry) (email : String) (id : Uuid) : Prop :=
  ∃ input user, e.call = .signup input ∧ e.answer = .ok (.ok (.registered user))
    ∧ input.email = email ∧ user.id = some id

/-- The password that a call set for a user, if it did. -/
def sets (e : Entry) (id : Uuid) : Option String :=
  match e.call, e.answer with
  | .signup input, .ok (.ok (.registered user)) =>
      if user.id = some id then some input.password else none
  | .recoverPassword input, .ok (.ok _) =>
      if e.owner = some id then some input.newPassword else none
  | _, _ => none

end Entry

/-- Whether an address was registered with an id. -/
def Opened (log : List Entry) (email : String) (id : Uuid) : Prop :=
  ∃ e ∈ log, e.Opens email id

/-- The password that was set last for a user. -/
def passwordOf (log : List Entry) (id : Uuid) : Option String :=
  log.reverse.findSome? fun e => e.sets id

section

variable {log : List Entry} {e : Entry} {email : String} {id : Uuid}

theorem opened_concat : Opened (log ++ [e]) email id ↔ Opened log email id ∨ e.Opens email id := by
  constructor
  · rintro ⟨a, ha, hopens⟩
    rcases List.mem_append.1 ha with ha | ha
    · exact Or.inl ⟨a, ha, hopens⟩
    · rw [List.mem_singleton.1 ha] at hopens
      exact Or.inr hopens
  · rintro (⟨a, ha, hopens⟩ | hopens)
    · exact ⟨a, List.mem_append_left _ ha, hopens⟩
    · exact ⟨e, List.mem_append_right _ (List.mem_singleton_self e), hopens⟩

theorem passwordOf_concat : passwordOf (log ++ [e]) id = (e.sets id).or (passwordOf log id) := by
  rw [passwordOf, List.reverse_append, List.reverse_singleton, List.singleton_append,
    List.findSome?_cons]
  cases e.sets id <;> rfl

end

/-! ## Users that agree with a log -/

/-- Whether the users that are kept are those that a log tells of. -/
structure Agrees (accepts : (password hash : String) → Bool) (log : List Entry)
    (users : Table Uuid User) : Prop where
  /-- Each user is kept under its own id. -/
  keyed : ∀ {id u}, users.get? id = some u → u.id = some id
  /-- Each user has registered its address. -/
  opened : ∀ {id u}, users.get? id = some u → Opened log u.email id
  /-- Its hash accepts the password that was set last. -/
  password : ∀ {id u}, users.get? id = some u →
    ∃ p, passwordOf log id = some p ∧ ∀ q, accepts q u.passwordHash = true ↔ q = p
  /-- Each registration is kept. -/
  present : ∀ {email id}, Opened log email id → ∃ u, users.get? id = some u ∧ u.email = email
  /-- No address has two users. -/
  unique : ∀ {id j u v}, users.get? id = some u → users.get? j = some v → u.email = v.email →
    id = j

namespace Agrees

variable {accepts : (password hash : String) → Bool} {log : List Entry} {e : Entry}
  {users : Table Uuid User}

theorem empty : Agrees accepts [] .empty where
  keyed h := nomatch h
  opened h := nomatch h
  password h := nomatch h
  present := by
    rintro email id ⟨e, he, -⟩
    exact nomatch he
  unique h := nomatch h

/-- A call that neither registered anyone nor set a password says nothing about the
users. -/
theorem idle (h : Agrees accepts log users) (hopens : ∀ email id, ¬ e.Opens email id)
    (hsets : ∀ id, e.sets id = none) : Agrees accepts (log ++ [e]) users := by
  have sameOpened : ∀ email id, Opened (log ++ [e]) email id ↔ Opened log email id := by
    intro email id
    rw [opened_concat]
    exact or_iff_left (hopens email id)
  have samePassword : ∀ id, passwordOf (log ++ [e]) id = passwordOf log id := by
    intro id
    rw [passwordOf_concat, hsets id, Option.none_or]
  refine ⟨h.keyed, ?_, ?_, ?_, h.unique⟩
  · intro id u hu
    exact (sameOpened _ _).2 (h.opened hu)
  · intro id u hu
    rw [samePassword]
    exact h.password hu
  · intro email id ho
    exact h.present ((sameOpened _ _).1 ho)

/-- A new user under an unused id and a free address. -/
theorem register (h : Agrees accepts log users) {id : Uuid} {user : User} {p : String}
    (unused : users.get? id = none) (free : ∀ {j u}, users.get? j = some u → u.email ≠ user.email)
    (hid : user.id = some id) (hhash : ∀ q, accepts q user.passwordHash = true ↔ q = p)
    (hopens : ∀ email j, e.Opens email j ↔ user.email = email ∧ id = j)
    (hsets : ∀ j, e.sets j = if id = j then some p else none) :
    Agrees accepts (log ++ [e]) (users.insert id user) := by
  have order := (UsersInOrder.mk h.keyed h.unique).register free hid
  refine ⟨order.named, ?_, ?_, ?_, order.unique⟩
  · intro j u hu
    rw [Table.get?_insert] at hu
    rw [opened_concat, hopens]
    split at hu
    · rename_i same
      rw [← Option.some.inj hu]
      exact Or.inr ⟨rfl, same.symm⟩
    · exact Or.inl (h.opened hu)
  · intro j u hu
    rw [Table.get?_insert] at hu
    rw [passwordOf_concat, hsets]
    split at hu
    · rename_i same
      rw [if_pos same.symm, ← Option.some.inj hu]
      exact ⟨p, rfl, hhash⟩
    · rename_i other
      rw [if_neg fun same => other same.symm, Option.none_or]
      exact h.password hu
  · intro email j ho
    rcases opened_concat.1 ho with ho | ho
    · obtain ⟨u, hu, hemail⟩ := h.present ho
      refine ⟨u, ?_, hemail⟩
      rw [Table.get?_insert_of_ne, hu]
      rintro rfl
      rw [unused] at hu
      cases hu
    · obtain ⟨hemail, rfl⟩ := (hopens email j).1 ho
      exact ⟨user, Table.get?_insert_self _ _ _, hemail⟩

/-- Another value of a user, with its id and its address. -/
theorem replace (h : Agrees accepts log users) {id : Uuid} {old new : User}
    (known : users.get? id = some old) (hid : new.id = old.id) (hemail : new.email = old.email)
    (hopens : ∀ email j, ¬ e.Opens email j) (hsets : ∀ j, j ≠ id → e.sets j = none)
    (hhash : ∃ p, (e.sets id).or (passwordOf log id) = some p
      ∧ ∀ q, accepts q new.passwordHash = true ↔ q = p) :
    Agrees accepts (log ++ [e]) (users.insert id new) := by
  have sameOpened : ∀ email j, Opened (log ++ [e]) email j ↔ Opened log email j := by
    intro email j
    rw [opened_concat]
    exact or_iff_left (hopens email j)
  have order := (UsersInOrder.mk h.keyed h.unique).replace known hid hemail
  refine ⟨order.named, ?_, ?_, ?_, order.unique⟩
  · intro j u hu
    obtain ⟨v, hv, -, sameEmail⟩ := UsersInOrder.earlier known hid hemail hu
    rw [sameOpened, sameEmail]
    exact h.opened hv
  · intro j u hu
    rw [Table.get?_insert] at hu
    rw [passwordOf_concat]
    split at hu
    · rename_i same
      rw [same, ← Option.some.inj hu]
      exact hhash
    · rename_i other
      rw [hsets j other, Option.none_or]
      exact h.password hu
  · intro email j ho
    obtain ⟨u, hu, huemail⟩ := h.present ((sameOpened _ _).1 ho)
    by_cases same : j = id
    · subst same
      refine ⟨new, Table.get?_insert_self _ _ _, ?_⟩
      rw [hemail, ← huemail, Option.some.inj (known.symm.trans hu)]
    · exact ⟨u, (Table.get?_insert_of_ne _ _ same).trans hu, huemail⟩

/-- A call that succeeds keeps the agreement, provided that the hashes that it keeps
accept what they were made of. -/
theorem succeed (w : Premises) {s : AccountService} {New : String → Prop} {call : AccountCall}
    {answer : AccountAnswer} {after : Memory} (h : Agrees accepts log w.memory.users)
    (effect : call.Effect s w New answer after)
    (hhash : ∀ q hash, w.hash q = .ok hash → ∀ p, accepts p hash = true ↔ p = q) :
    Agrees accepts (log ++ [⟨call, .ok (.ok answer), call.owner w.memory⟩]) after.users := by
  cases effect with
  | @signedUp input id _ token hash user mail free unused hashed made =>
    subst made
    refine h.register unused (Memory.existsByEmail_false free) rfl (hhash _ _ hashed) ?_ ?_
    · intro email j
      constructor
      · rintro ⟨input', user', hcall, hanswer, hemail, hid⟩
        cases hcall
        cases hanswer
        exact ⟨hemail, Option.some.inj hid⟩
      · rintro ⟨hemail, rfl⟩
        exact ⟨input, _, rfl, rfl, hemail, rfl⟩
    · intro j
      simp [Entry.sets, User.kept]
  | @activated token activation user _ found known consumed =>
    have husers : after.users
        = w.memory.users.insert activation.userId { user with isActive := true } := by
      rcases consumed with rfl | rfl
      · rfl
      · rw [Memory.remove_users, Memory.keepUser_users]
    rw [husers]
    obtain ⟨p, hp, haccepts⟩ := h.password known
    refine h.replace known rfl rfl ?_ (fun _ _ => rfl) ⟨p, hp, haccepts⟩
    rintro email j ⟨_, _, hcall, -⟩
    cases hcall
  | loggedIn =>
    refine h.idle ?_ fun _ => rfl
    rintro email j ⟨_, _, hcall, -⟩
    cases hcall
  | @recoveryOpened email token user id =>
    rw [Memory.queue_users, Memory.keep_users]
    refine h.idle ?_ fun _ => rfl
    rintro email j ⟨_, _, hcall, -⟩
    cases hcall
  | @recovered input recovery user hash fresh _ found known hashed consumed =>
    have howner : user.id = some recovery.userId := h.keyed known
    have hkept : (user.withPasswordHash hash).keptId fresh = recovery.userId := by
      simp [User.keptId, User.withPasswordHash, howner]
    have husers : after.users = w.memory.users.insert recovery.userId
        ((user.withPasswordHash hash).kept fresh) := by
      rw [hkept] at consumed
      rcases consumed with rfl | rfl
      · rfl
      · rw [Memory.remove_users, Memory.keepUser_users]
    rw [husers]
    refine h.replace known ?_ rfl ?_ ?_ ⟨input.newPassword, ?_, hhash _ _ hashed⟩
    · rw [howner, User.kept, hkept]
    · rintro email j ⟨_, _, hcall, -⟩
      cases hcall
    · intro j hj
      simp [Entry.sets, AccountCall.owner, found, hj.symm]
    · simp [Entry.sets, AccountCall.owner, found]

/-- A call that does not succeed says nothing about the users. -/
theorem fail {call : AccountCall} {answer : Except Cut (Except Failure AccountAnswer)}
    {owner : Option Uuid} (h : Agrees accepts log users)
    (failed : ∀ a, answer ≠ .ok (.ok a)) :
    Agrees accepts (log ++ [⟨call, answer, owner⟩]) users := by
  refine h.idle ?_ ?_
  · rintro email id ⟨_, _, -, hanswer, -⟩
    exact failed _ hanswer
  · intro id
    unfold Entry.sets
    split
    · rename_i hanswer
      exact absurd hanswer (failed _)
    · rename_i hanswer
      exact absurd hanswer (failed _)
    · rfl

end Agrees

/-- After every run the users that are kept are those that its log tells of. -/
theorem Reached.agrees {s : AccountService} {accepts : (password hash : String) → Bool}
    {log : List Entry} {rt : Runtime Premises} (h : Reached s accepts log rt) :
    Agrees accepts log rt.world.memory.users := by
  induction h with
  | start h =>
    rw [h]
    exact .empty
  | @turn log rt earlier t faithful fresh ih =>
    have hends : Ends (t.call.Effect s (t.enter rt).world _) (t.enter rt).world.memory
        (t.take s rt) :=
      t.call.ends s fresh
    unfold Turn.entry
    generalize t.take s rt = result at hends ⊢
    cases hends with
    | givenUp same =>
      rw [same]
      refine ih.fail ?_
      intro a hanswer
      cases hanswer
    | failed same =>
      rw [same]
      refine ih.fail ?_
      intro a hanswer
      cases hanswer
    | succeeded effect => exact ih.succeed (t.enter rt).world effect faithful.hash

end Gatehouse
