/-
  Gatehouse/Proofs/MySql/Sharing.lean --- the writes of a unit of work share a transaction.

  Any writes may be made on the stores in the database in one unit of work, whatever is
  replied to each and whether or not the pool has a connection to give, and the unit of work
  is then committed or rolled back.  The first write
  for which a transaction could be opened opens it, and from then on each write sends its
  one statement there.  What one write says depends on what the unit of work holds before
  it; the run is by induction over the writes.

  Main definitions: `StoreWrite.Makes`, `MySql.Called`, `MySql.Told`, `MySql.conduct`.
  Main statements: `MySql.ends_put`, `MySql.Conversation.told`, `MySql.shares_transaction`.
-/
import Gatehouse.Proofs.Dialogue
import Gatehouse.Proofs.MySql.Wire
import Mathlib.Data.List.Forall2

set_option autoImplicit false

namespace Gatehouse

/-- Whether a statement is the one of a write.  A new row has an id of its own. -/
inductive StoreWrite.Makes : StoreWrite → MySql.Statement → Prop
  | insertUser (id : Uuid) {u : User} (new : u.id = none) : Makes (.saveUser u) (.insertUser id u)
  | updatePassword {u : User} {id : Uuid} (stored : u.id = some id) :
      Makes (.saveUser u) (.updatePassword id u.passwordHash)
  | activateUser (id : Uuid) : Makes (.activateUser id) (.activateUser id)
  | saveCredential (kind : CredentialKind) (c : Credential) :
      Makes (.saveCredential kind c) (.insertCredential kind c)
  | deleteCredential (kind : CredentialKind) (token : String) :
      Makes (.deleteCredential kind token) (.deleteCredential kind token)
  | enqueue (id : Uuid) (mail : Mail) : Makes (.enqueue mail) (.queueMail id mail)

theorem StoreWrite.Makes.isWrite {w : StoreWrite} {s : MySql.Statement} (h : w.Makes s) :
    s.isWrite = true := by
  cases h with
  | insertUser => rfl
  | updatePassword => rfl
  | activateUser => rfl
  | saveCredential => rfl
  | deleteCredential => rfl
  | enqueue => rfl

namespace MySql

open Virtual (Ends)

variable {B : Backend} {wire : Wire B} {R : Cut → Wire B → Prop}

/-! ## One write -/

/-- A write on the stores in the database, without its value. -/
def put : StoreWrite → Step Kinds (Wire.Run B) Unit
  | .saveUser u => do
      let _ ← UserStore.save u
      pure ()
  | .activateUser id => UserStore.activate id
  | .saveCredential kind c => CredentialStore.save kind c
  | .deleteCredential kind token => CredentialStore.delete kind token
  | .enqueue mail => MailQueue.enqueue mail

/-- What a write says and how it ends: it does not come to a transaction, or it sends its
statement there. -/
inductive Called (w : StoreWrite) (before : Option Handle) :
    List Sent → Nat → Except Failure Unit → Option Handle → Prop
  | refused {said : List Sent} {lost : Nat} {e : Failure} {after : Option Handle}
      (joined : Joined before said lost (.error e) after) :
      Called w before said lost (.error e) after
  | made {said : List Sent} {lost : Nat} {c : Connection} {after : Option Handle} {s : Statement}
      (joined : Joined before said lost (.ok c) after) (makes : w.Makes s) (reply : Reply)
      (r : Except Failure Unit) : Called w before (said ++ [⟨c, s, reply⟩]) lost r after

/-- What a piece of a step with a value of any kind says when it is a write. -/
def Wrote {α : Type} (w : StoreWrite) (u : UnitOfWork Kinds) (wire : Wire B)
    (p : Except Failure α × UnitOfWork Kinds) (wire' : Wire B) : Prop :=
  ∃ said lost, wire.Adds said lost wire'
    ∧ Called w u.handle said lost (p.1.map fun _ => ()) p.2.handle

section

variable {α : Type} {w : StoreWrite} {u : UnitOfWork Kinds}

/-- A piece of a step that begins with coming to the transaction is a write when it sends
the write's statement on the connection that it is given, and nothing else. -/
theorem ends_joined {f : Connection → Step Kinds (Wire.Run B) α}
    (sends : ∀ c v wire₁, Ends ((f c).runOn v) wire₁ (fun p wire₂ => p.2 = v
      ∧ ∃ s reply, w.Makes s ∧ wire₁.Adds [⟨c, s, reply⟩] 0 wire₂) R) :
    Ends (Step.runOn (transaction >>= f) u) wire (Wrote w u wire) R := by
  refine Step.ends_bind (ends_transaction.mono ?_ fun _ _ hR => hR)
  rintro ⟨e | c, v⟩ wire₁ ⟨said, lost, hadds, hjoined⟩
  · exact ⟨said, lost, hadds, .refused hjoined⟩
  · refine (sends c v wire₁).mono ?_ fun _ _ hR => hR
    rintro ⟨r, v'⟩ wire₂ ⟨rfl, s, reply, hmakes, hadds₂⟩
    exact ⟨said ++ [⟨c, s, reply⟩], lost, hadds.trans hadds₂, .made hjoined hmakes reply _⟩

/-- Sending a statement, when only a result is made of its reply. -/
theorem ends_executeIn {c : Connection} {s : Statement} {v : UnitOfWork Kinds}
    {f : Except DatabaseError Nat → Step Kinds (Wire.Run B) α} (makes : w.Makes s)
    (result : ∀ r, ∃ r', (f r).runOn v = pure (r', v)) :
    Ends (Step.runOn (Step.lift (ExceptT.lift (execute c s)) >>= f) v) wire
      (fun p wire' => p.2 = v
        ∧ ∃ s reply, w.Makes s ∧ wire.Adds [⟨c, s, reply⟩] 0 wire') R := by
  refine Step.ends_bind (Step.ends_lift (ends_execute ?_))
  intro reply wire' hsent
  obtain ⟨r', hr⟩ := result reply.affectedOr
  dsimp only
  rw [hr]
  exact .pure ⟨rfl, s, reply, makes, hsent⟩

/-- What is made of the value of a write says nothing. -/
theorem ends_valued {β : Type} {x : Step Kinds (Wire.Run B) α}
    {f : α → Step Kinds (Wire.Run B) β} (result : ∀ a v, ∃ r, (f a).runOn v = pure (r, v))
    (h : Ends (x.runOn u) wire (Wrote w u wire) R) :
    Ends ((x >>= f).runOn u) wire (Wrote w u wire) R := by
  refine Step.ends_bind (h.mono ?_ fun _ _ hR => hR)
  rintro ⟨e | a, v⟩ wire' hwrote
  · exact hwrote
  · obtain ⟨r, hr⟩ := result a v
    dsimp only
    rw [hr]
    obtain ⟨said, lost, hadds, hcalled⟩ := hwrote
    refine .pure ⟨said, lost, hadds, ?_⟩
    cases hcalled with
    | made joined makes reply _ => exact .made joined makes reply _

theorem ends_write {action : String} {s : Statement} (makes : w.Makes s) :
    Ends (Step.runOn (write action s : Step Kinds (Wire.Run B) Nat) u) wire (Wrote w u wire) R := by
  refine ends_joined fun c v wire₁ => ends_executeIn makes ?_
  rintro (e | n)
  · exact ⟨_, rfl⟩
  · exact ⟨_, rfl⟩

end

/-- A stored user has its password replaced. -/
theorem save_stored {user : User} {id : Uuid} (stored : user.id = some id) :
    (UserStore.save user : Step Kinds (Wire.Run B) User)
      = write "update user" (.updatePassword id user.passwordHash) >>= fun _ => pure user := by
  simp only [UserStore.save, stored]

/-- A user without an id is inserted. -/
theorem save_new {user : User} (new : user.id = none) :
    (UserStore.save user : Step Kinds (Wire.Run B) User) = insertUser user := by
  simp only [UserStore.save, new]

/-- Each write sends at most its one statement, in the transaction of the unit of work. -/
theorem ends_put (w : StoreWrite) (u : UnitOfWork Kinds) :
    Ends (Step.runOn (put w) u) wire (Wrote w u wire) R := by
  cases w with
  | saveUser user =>
    refine ends_valued (fun _ _ => ⟨_, rfl⟩) ?_
    cases hid : user.id with
    | some id =>
      rw [save_stored hid]
      exact ends_valued (fun _ _ => ⟨_, rfl⟩) (ends_write (.updatePassword hid))
    | none =>
      rw [save_new hid]
      refine ends_joined fun c v wire₁ => Step.ends_bind (Step.ends_lift (.freshId fun id => ?_))
      refine ends_executeIn (.insertUser id hid) ?_
      rintro (e | n)
      · exact ⟨_, rfl⟩
      · exact ⟨_, rfl⟩
  | activateUser id =>
    refine ends_valued ?_ (ends_write (.activateUser id))
    intro n v
    split
    · exact ⟨_, rfl⟩
    · exact ⟨_, rfl⟩
  | saveCredential kind c =>
    exact ends_valued (fun _ _ => ⟨_, rfl⟩) (ends_write (.saveCredential kind c))
  | deleteCredential kind token =>
    exact ends_valued (fun _ _ => ⟨_, rfl⟩) (ends_write (.deleteCredential kind token))
  | enqueue mail =>
    refine ends_joined fun c v wire₁ => Step.ends_bind (Step.ends_lift (.freshId fun id => ?_))
    refine ends_executeIn (.enqueue id mail) ?_
    rintro (e | n)
    · exact ⟨_, rfl⟩
    · exact ⟨_, rfl⟩

/-! ## Many writes -/

/-- Makes some writes in a unit of work, whichever of them fail. -/
def putAll (u : UnitOfWork Kinds) :
    List StoreWrite → Wire.Run B (List (Except Failure Unit) × UnitOfWork Kinds)
  | [] => pure ([], u)
  | w :: rest => do
      let (r, u) ← Step.runOn (put w) u
      let (rs, u) ← putAll u rest
      pure (r :: rs, u)

/-- What some writes say one after another, with their results. -/
inductive Conversation : Option Handle → List StoreWrite → List Sent → Nat →
    List (Except Failure Unit) → Option Handle → Prop
  | nil (h : Option Handle) : Conversation h [] [] 0 [] h
  | cons {before between after : Option Handle} {w : StoreWrite} {rest : List StoreWrite}
      {said later : List Sent} {lost lostLater : Nat} {r : Except Failure Unit}
      {rs : List (Except Failure Unit)} (first : Called w before said lost r between)
      (more : Conversation between rest later lostLater rs after) :
      Conversation before (w :: rest) (said ++ later) (lost + lostLater) (r :: rs) after

theorem ends_putAll (writes : List StoreWrite) (u : UnitOfWork Kinds) :
    Ends (putAll u writes) wire (fun p wire' => ∃ said lost, wire.Adds said lost wire'
      ∧ Conversation u.handle writes said lost p.1 p.2.handle) R := by
  induction writes generalizing u wire with
  | nil => exact .pure ⟨[], 0, .refl wire, .nil _⟩
  | cons w rest ih =>
    refine .bind ((ends_put w u).mono ?_ fun _ _ hR => hR)
    rintro ⟨r, v⟩ wire₁ ⟨said, lost, hadds, hcalled⟩
    refine .bind ((ih v).mono ?_ fun _ _ hR => hR)
    rintro ⟨rs, v'⟩ wire₂ ⟨later, lostLater, hlater, hmore⟩
    refine .pure ⟨said ++ later, lost + lostLater, hadds.trans hlater, .cons ?_ hmore⟩
    cases r with
    | ok a => exact hcalled
    | error e => exact hcalled

/-! ## The whole conversation -/

/-- Whether a statement sends a write on a connection. -/
def Sent.Carries (c : Connection) (w : StoreWrite) (x : Sent) : Prop :=
  x.connection = c ∧ w.Makes x.statement

/-- Whether a transaction could not be opened. -/
def Sent.IsRefusal (x : Sent) : Prop :=
  ∃ c e, x = ⟨c, .beginTransaction, .failed e⟩

/-- What is said for some writes in a unit of work that comes without a transaction, how
often no connection was given, and the connection of the transaction that it then has. -/
inductive Told (writes : List StoreWrite) : List Sent → Nat → Option Handle → Prop
  /-- No transaction could be opened for any write. -/
  | never {refusals : List Sent} {lost : Nat} (refused : ∀ x ∈ refusals, x.IsRefusal)
      (each : lost + refusals.length = writes.length) : Told writes refusals lost none
  /-- After some refusals one was opened, and all later writes were sent there. -/
  | once {refusals : List Sent} {lost : Nat} (refused : ∀ x ∈ refusals, x.IsRefusal)
      (c : Connection) {reply : Reply} (done : reply.hasFailed = false) {made : List Sent}
      (carried : List.Forall₂ (Sent.Carries c) (writes.drop (lost + refusals.length)) made) :
      Told writes (refusals ++ ⟨c, .beginTransaction, reply⟩ :: made) lost (some (.transaction c))

/-- One more write for which no transaction could be opened: its BEGIN was refused, or no
connection was given. -/
theorem Told.cons {w : StoreWrite} {rest : List StoreWrite} {said first : List Sent}
    {lost lostFirst : Nat} {after : Option Handle} (h : Told rest said lost after)
    (refused : ∀ x ∈ first, x.IsRefusal) (one : lostFirst + first.length = 1) :
    Told (w :: rest) (first ++ said) (lostFirst + lost) after := by
  have hall : ∀ {refusals : List Sent}, (∀ x ∈ refusals, x.IsRefusal) →
      ∀ x ∈ first ++ refusals, x.IsRefusal := by
    intro refusals hrefused x hx
    exact (List.mem_append.1 hx).elim (refused x) (hrefused x)
  cases h with
  | never hrefused each =>
    refine .never (hall hrefused) ?_
    rw [List.length_append, List.length_cons]
    omega
  | @once refusals _ hrefused c _ done _ carried =>
    rw [← List.append_assoc]
    refine .once (hall hrefused) c done ?_
    have hlength : lostFirst + lost + (first ++ refusals).length
        = lost + refusals.length + 1 := by
      rw [List.length_append]
      omega
    rw [hlength, List.drop_succ_cons]
    exact carried

namespace Conversation

variable {writes : List StoreWrite} {said : List Sent} {lost : Nat}
  {rs : List (Except Failure Unit)} {after : Option Handle}

/-- Nothing is said in a unit of work that holds a transaction of another store, and no
connection is asked for. -/
theorem foreign (h : Conversation (some .foreign) writes said lost rs after) :
    said = [] ∧ lost = 0 ∧ after = some .foreign ∧ rs.length = writes.length
      ∧ ∀ r ∈ rs, ∃ e, r = .error e := by
  induction writes generalizing said lost rs with
  | nil =>
    cases h
    exact ⟨rfl, rfl, rfl, rfl, nofun⟩
  | cons w rest ih =>
    cases h with
    | cons first more =>
      cases first with
      | made joined => cases joined
      | refused joined =>
        cases joined
        obtain ⟨rfl, rfl, rfl, hlength, herror⟩ := ih more
        refine ⟨rfl, rfl, rfl, congrArg Nat.succ hlength, ?_⟩
        intro r hr
        rcases List.mem_cons.1 hr with rfl | hr
        · exact ⟨_, rfl⟩
        · exact herror r hr

/-- Where a transaction is open, each write sends its statement there. -/
theorem shared {c : Connection}
    (h : Conversation (some (.transaction c)) writes said lost rs after) :
    after = some (.transaction c) ∧ lost = 0 ∧ List.Forall₂ (Sent.Carries c) writes said := by
  induction writes generalizing said lost rs with
  | nil =>
    cases h
    exact ⟨rfl, rfl, .nil⟩
  | cons w rest ih =>
    cases h with
    | cons first more =>
      cases first with
      | refused joined => cases joined
      | made joined makes reply _ =>
        cases joined
        obtain ⟨rfl, rfl, hrest⟩ := ih more
        exact ⟨rfl, rfl, .cons ⟨rfl, makes⟩ hrest⟩

/-- The first write for which a transaction can be opened opens it. -/
theorem told (h : Conversation none writes said lost rs after) : Told writes said lost after := by
  induction writes generalizing said lost rs with
  | nil =>
    cases h
    exact .never nofun rfl
  | cons w rest ih =>
    cases h with
    | cons first more =>
      cases first with
      | @made _ _ c _ _ joined makes reply _ =>
        cases joined with
        | opened _ done =>
          obtain ⟨rfl, rfl, hrest⟩ := more.shared
          have hnone : ∀ x ∈ ([] : List Sent), x.IsRefusal := nofun
          exact .once hnone c done (.cons ⟨rfl, makes⟩ hrest)
      | refused joined =>
        cases joined with
        | unopened c e f => exact (ih more).cons (List.forall_mem_singleton.2 ⟨c, e, rfl⟩) rfl
        | unconnected f => exact (ih more).cons nofun rfl

end Conversation

/-! ## The unit of work -/

/-- How a unit of work is ended. -/
inductive Ending where
  | commit
  | rollback
  deriving DecidableEq, Repr, Inhabited

/-- The statement by which a transaction is ended. -/
def Ending.statement : Ending → Statement
  | .commit => .commitTransaction
  | .rollback => .rollbackTransaction

/-- Ends a unit of work. -/
def Ending.take (u : UnitOfWork Kinds) : Ending → Wire.Run B (Except Failure Unit)
  | .commit => u.commit
  | .rollback => do
      u.rollback
      pure (.ok ())

theorem Ending.ends_take (e : Ending) (u : UnitOfWork Kinds) :
    Ends (e.take u) wire (fun _ wire' => ∃ closing, wire.Adds closing 0 wire'
      ∧ SaysClosing e.statement u.handle closing) R := by
  cases e with
  | commit => exact ends_commit
  | rollback => exact .bind (ends_rollback.mono (fun _ _ h => .pure h) fun _ _ hR => hR)

/-- Makes some writes in a unit of work and ends it. -/
def conduct (u : UnitOfWork Kinds) (writes : List StoreWrite) (e : Ending) :
    Wire.Run B (List (Except Failure Unit) × Except Failure Unit) := do
  let (rs, u) ← putAll u writes
  let verdict ← e.take u
  pure (rs, verdict)

theorem ends_conduct (u : UnitOfWork Kinds) (writes : List StoreWrite) (e : Ending) :
    Ends (conduct u writes e) wire (fun p wire' => ∃ said lost closing after,
      wire.Adds (said ++ closing) lost wire'
        ∧ Conversation u.handle writes said lost p.1 after
        ∧ SaysClosing e.statement after closing) R := by
  refine .bind ((ends_putAll writes u).mono ?_ fun _ _ hR => hR)
  rintro ⟨rs, v⟩ wire₁ ⟨said, lost, hsaid, hconversation⟩
  refine .bind ((e.ends_take v).mono ?_ fun _ _ hR => hR)
  rintro verdict wire₂ ⟨closing, hclosing, hends⟩
  exact .pure ⟨said, lost, closing, v.handle, hsaid.trans hclosing, hconversation, hends⟩

/-- Whether a transaction was opened. -/
def Sent.opens (x : Sent) : Bool := x.statement = .beginTransaction && !x.reply.hasFailed

/-- Whether a transaction could not be opened. -/
def Sent.refuses (x : Sent) : Bool := x.statement = .beginTransaction && x.reply.hasFailed

/-- Whether what is said for some writes and at the end of their unit of work is said in
one transaction, when for some of them no connection was given. -/
structure InOneTransaction (writes : List StoreWrite) (e : Ending) (lost : Nat)
    (said closing : List Sent) : Prop where
  /-- A write is sent on the connection of a transaction that was opened before. -/
  begun : ∀ before x after, said = before ++ x :: after → x.statement.isWrite = true →
    ∃ y ∈ before, y.opens = true ∧ y.connection = x.connection
  /-- At most one transaction is opened. -/
  once : said.countP Sent.opens ≤ 1
  /-- It is tried to open one only while none is open. -/
  tried : ∀ before x after, said = before ++ x :: after → x.statement = .beginTransaction →
    ∀ y ∈ before, y.opens = false
  /-- But for the writes whose transaction could not be opened, each write sends its
  statement, in the order of the writes. -/
  ordered : List.Forall₂ StoreWrite.Makes (writes.drop (lost + said.countP Sent.refuses))
    ((said.filter fun x => x.statement.isWrite).map Sent.statement)
  /-- Nothing else is said before the end. -/
  only : ∀ x ∈ said, x.statement = .beginTransaction ∨ x.statement.isWrite = true
  /-- At the end the transaction is ended, if one was opened. -/
  closes : match said.find? Sent.opens with
    | some x => SaysEnd x.connection e.statement closing
    | none => closing = []

namespace Sent

variable {x : Sent}

theorem IsRefusal.statement (h : x.IsRefusal) : x.statement = .beginTransaction := by
  obtain ⟨c, e, rfl⟩ := h
  rfl

theorem IsRefusal.refuses (h : x.IsRefusal) : x.refuses = true := by
  obtain ⟨c, e, rfl⟩ := h
  rfl

theorem IsRefusal.opens (h : x.IsRefusal) : x.opens = false := by
  obtain ⟨c, e, rfl⟩ := h
  rfl

theorem IsRefusal.isWrite (h : x.IsRefusal) : x.statement.isWrite = false := by
  rw [h.statement]
  rfl

theorem statement_ne_of_isWrite (h : x.statement.isWrite = true) :
    x.statement ≠ .beginTransaction := by
  intro hbegin
  rw [hbegin] at h
  cases h

theorem opens_of_isWrite (h : x.statement.isWrite = true) : x.opens = false := by
  rw [opens, decide_eq_false (statement_ne_of_isWrite h), Bool.false_and]

theorem refuses_of_isWrite (h : x.statement.isWrite = true) : x.refuses = false := by
  rw [refuses, decide_eq_false (statement_ne_of_isWrite h), Bool.false_and]

end Sent

section

variable {refusals made : List Sent} {c : Connection} {writes : List StoreWrite}

theorem not_opens_of_refused (h : ∀ x ∈ refusals, x.IsRefusal) :
    ∀ x ∈ refusals, ¬ x.opens = true := by
  intro x hx
  rw [(h x hx).opens]
  exact Bool.false_ne_true

theorem countP_refuses_of_refused (h : ∀ x ∈ refusals, x.IsRefusal) :
    refusals.countP Sent.refuses = refusals.length :=
  List.countP_eq_length.2 fun x hx => (h x hx).refuses

theorem filter_isWrite_of_refused (h : ∀ x ∈ refusals, x.IsRefusal) :
    refusals.filter (fun x => x.statement.isWrite) = [] := by
  refine List.filter_eq_nil_iff.2 fun x hx => ?_
  rw [(h x hx).isWrite]
  exact Bool.false_ne_true

/-- What carries writes on a connection is there, and is a write. -/
theorem of_carried (h : List.Forall₂ (Sent.Carries c) writes made) :
    ∀ x ∈ made, x.connection = c ∧ x.statement.isWrite = true := by
  induction h with
  | nil => nofun
  | cons first _ ih =>
    intro x hx
    rcases List.mem_cons.1 hx with rfl | hx
    · exact ⟨first.1, first.2.isWrite⟩
    · exact ih x hx

theorem not_opens_of_carried (h : List.Forall₂ (Sent.Carries c) writes made) :
    ∀ x ∈ made, ¬ x.opens = true := by
  intro x hx
  rw [Sent.opens_of_isWrite (of_carried h x hx).2]
  exact Bool.false_ne_true

theorem not_refuses_of_carried (h : List.Forall₂ (Sent.Carries c) writes made) :
    ∀ x ∈ made, ¬ x.refuses = true := by
  intro x hx
  rw [Sent.refuses_of_isWrite (of_carried h x hx).2]
  exact Bool.false_ne_true

end

/-- Where a list is cut at an element that comes behind another, that one is in front of
the cut. -/
theorem mem_before {α : Type} {front back before after : List α} {b x : α}
    (h : front ++ b :: back = before ++ x :: after) (hfront : x ∉ front) (hne : x ≠ b) :
    b ∈ before := by
  rcases List.append_eq_append_iff.1 h with ⟨between, rfl, hrest⟩ | ⟨between, rfl, hrest⟩
  · cases between with
    | nil => exact absurd (List.cons.inj hrest).1.symm hne
    | cons d between =>
      rw [(List.cons.inj hrest).1]
      exact List.mem_append_right _ List.mem_cons_self
  · cases between with
    | nil => exact absurd (List.cons.inj hrest).1 hne
    | cons d between =>
      rw [(List.cons.inj hrest).1] at hfront
      exact absurd (List.mem_append_right _ List.mem_cons_self) hfront

/-- Where a list is cut at an element that is not in its back, all in front of the cut is in
its front. -/
theorem before_subset {α : Type} {front back before after : List α} {b x : α}
    (h : front ++ b :: back = before ++ x :: after) (hback : x ∉ back) : before ⊆ front := by
  rcases List.append_eq_append_iff.1 h with ⟨between, rfl, hrest⟩ | ⟨between, rfl, hrest⟩
  · cases between with
    | nil =>
      rw [List.append_nil]
      exact List.Subset.refl _
    | cons d between =>
      rw [(List.cons.inj hrest).2] at hback
      exact absurd (List.mem_append_right _ List.mem_cons_self) hback
  · exact List.subset_append_left _ _

namespace InOneTransaction

variable {writes : List StoreWrite} {e : Ending} {lost : Nat}
  {closing refusals made : List Sent}

theorem of_never (refused : ∀ x ∈ refusals, x.IsRefusal)
    (each : lost + refusals.length = writes.length) :
    InOneTransaction writes e lost refusals [] := by
  have hopens := not_opens_of_refused refused
  refine ⟨?_, ?_, ?_, ?_, fun x hx => .inl (refused x hx).statement, ?_⟩
  · rintro before x after rfl hwrite
    have hx := (refused x (List.mem_append_right _ List.mem_cons_self)).isWrite
    rw [hwrite] at hx
    cases hx
  · rw [List.countP_eq_zero.2 hopens]
    exact Nat.zero_le 1
  · rintro before x after rfl _ y hy
    exact (refused y (List.mem_append_left _ hy)).opens
  · rw [countP_refuses_of_refused refused, each, List.drop_length,
      filter_isWrite_of_refused refused]
    exact .nil
  · rw [List.find?_eq_none.2 hopens]

theorem of_once {c : Connection} {reply : Reply} (refused : ∀ x ∈ refusals, x.IsRefusal)
    (done : reply.hasFailed = false)
    (carried : List.Forall₂ (Sent.Carries c) (writes.drop (lost + refusals.length)) made)
    (ends : SaysEnd c e.statement closing) :
    InOneTransaction writes e lost (refusals ++ ⟨c, .beginTransaction, reply⟩ :: made)
      closing := by
  have hmade := of_carried carried
  have hfirst := not_opens_of_refused refused
  have hopens : Sent.opens ⟨c, .beginTransaction, reply⟩ = true := by
    rw [Sent.opens, done]
    rfl
  have hrefuses : Sent.refuses ⟨c, .beginTransaction, reply⟩ = false := by
    rw [Sent.refuses, done]
    rfl
  refine ⟨?_, ?_, ?_, ?_, ?_, ?_⟩
  · intro before x after hsplit hwrite
    have hx : x ∉ refusals := by
      intro hx
      rw [(refused x hx).isWrite] at hwrite
      cases hwrite
    have hne : x ≠ ⟨c, .beginTransaction, reply⟩ := by
      rintro rfl
      cases hwrite
    refine ⟨_, mem_before hsplit hx hne, hopens, ?_⟩
    have hmem : x ∈ refusals ++ ⟨c, .beginTransaction, reply⟩ :: made := by
      rw [hsplit]
      exact List.mem_append_right _ List.mem_cons_self
    rcases List.mem_append.1 hmem with hmem | hmem
    · exact absurd hmem hx
    · exact (hmade x ((List.mem_cons.1 hmem).resolve_left hne)).1.symm
  · rw [List.countP_append, List.countP_cons, List.countP_eq_zero.2 hfirst,
      List.countP_eq_zero.2 (not_opens_of_carried carried), hopens]
    exact Nat.le_refl 1
  · intro before x after hsplit hbegin y hy
    have hx : x ∉ made := fun hx => Sent.statement_ne_of_isWrite (hmade x hx).2 hbegin
    exact (refused y (before_subset hsplit hx hy)).opens
  · have hcount : List.countP Sent.refuses (refusals ++ ⟨c, .beginTransaction, reply⟩ :: made)
        = refusals.length := by
      rw [List.countP_append, List.countP_cons, countP_refuses_of_refused refused,
        List.countP_eq_zero.2 (not_refuses_of_carried carried), hrefuses]
      rfl
    have hwrites : (refusals ++ ⟨c, .beginTransaction, reply⟩ :: made).filter
        (fun x => x.statement.isWrite) = made := by
      rw [List.filter_append, filter_isWrite_of_refused refused, List.nil_append,
        List.filter_cons_of_neg Bool.false_ne_true]
      exact List.filter_eq_self.2 fun x hx => (hmade x hx).2
    rw [hcount, hwrites, List.forall₂_map_right_iff]
    exact carried.imp fun _ _ h => h.2
  · intro x hx
    rcases List.mem_append.1 hx with hx | hx
    · exact .inl (refused x hx).statement
    · rcases List.mem_cons.1 hx with rfl | hx
      · exact .inl rfl
      · exact .inr (hmade x hx).2
  · rw [List.find?_append, List.find?_eq_none.2 hfirst, Option.none_or,
      List.find?_cons_of_pos hopens]
    exact ends

/-- What is told of some writes and of the end of their unit of work is said in one
transaction. -/
theorem of_told {said : List Sent} {after : Option Handle} (h : Told writes said lost after)
    (ends : SaysClosing e.statement after closing) :
    InOneTransaction writes e lost said closing := by
  cases h with
  | never refused each =>
    obtain rfl : closing = [] := ends
    exact .of_never refused each
  | once refused c done carried => exact .of_once refused done carried ends

end InOneTransaction

/-- For every sequence of writes on the users, the credentials and the mails in a new unit
of work, ended by a commit or a rollback, and whatever the database replies: no write is sent
before a transaction was opened; at most one is opened, and it is tried to open one only
while none is open; the writes are sent in their order on its connection, but for those
whose BEGIN was refused or for which the pool had no connection to give; a commit sends one
COMMIT if it was opened and nothing otherwise, and a rollback one ROLLBACK and no COMMIT,
but that a transaction whose end failed is let go of by a ROLLBACK.  In a unit of work that
holds a transaction of another store every write is refused and nothing is sent. -/
theorem shares_transaction (B : Backend) (id : Uuid) (writes : List StoreWrite) (e : Ending)
    (rt : Runtime (Wire B)) :
    (∃ results said lost closing rt',
      (conduct (.empty Kinds id) writes e).runOn rt = (.ok results, rt')
        ∧ rt'.world.sent = rt.world.sent ++ (said ++ closing)
        ∧ rt'.world.lost = rt.world.lost + lost
        ∧ InOneTransaction writes e lost said closing)
      ∧ ∃ rs verdict rt',
        (conduct { UnitOfWork.empty Kinds id with handle := some .foreign } writes e).runOn rt
            = (.ok (rs, verdict), rt')
          ∧ rt'.world.sent = rt.world.sent ∧ rt'.world.lost = rt.world.lost
          ∧ rs.length = writes.length ∧ ∀ r ∈ rs, ∃ f, r = .error f := by
  have hends : ∀ u, ∃ results rt', (conduct u writes e).runOn rt = (.ok results, rt')
      ∧ ∃ said lost closing after, rt.world.Adds (said ++ closing) lost rt'.world
        ∧ Conversation u.handle writes said lost results.1 after
        ∧ SaysClosing e.statement after closing := by
    intro u
    obtain ⟨result, rt', hrun, -, -, hend⟩ :=
      ends_conduct (R := fun _ _ => False) u writes e rt rfl
    cases result with
    | ok results => exact ⟨results, rt', hrun, hend⟩
    | error c => exact hend.2.elim
  constructor
  · obtain ⟨results, rt', hrun, said, lost, closing, after, hadds, hconversation, hclosing⟩ :=
      hends (.empty Kinds id)
    exact ⟨results, said, lost, closing, rt', hrun, hadds.sent, hadds.lost,
      .of_told hconversation.told hclosing⟩
  · obtain ⟨⟨rs, verdict⟩, rt', hrun, said, lost, closing, after, hadds, hconversation, hclosing⟩ :=
      hends { UnitOfWork.empty Kinds id with handle := some .foreign }
    obtain ⟨rfl, rfl, rfl, hlength, herror⟩ := hconversation.foreign
    obtain rfl : closing = [] := hclosing
    have hsent := hadds.sent
    rw [List.append_nil, List.append_nil] at hsent
    exact ⟨rs, verdict, rt', hrun, hsent, hadds.lost, hlength, herror⟩

end MySql

end Gatehouse
