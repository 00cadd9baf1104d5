/-
  Gatehouse/Proofs/MySql/Wire.lean --- what is sent to a database of which nothing is known.

  Which connection the pool gives, if it has one to give, and what is replied to a statement
  may depend on all that was asked before.  Only what was sent is kept, in order, each
  statement with its connection and its reply, and how often no connection was given.  For
  each piece of the stores that talks to the database a rule says what it adds to that.

  Main definitions: `MySql.Backend`, `MySql.Wire`, `MySql.Sent`, `MySql.Wire.Adds`,
  `MySql.Joined`.
  Main statements: `MySql.ends_transaction`, `MySql.ends_commit`, `MySql.ends_rollback`.
-/
import Gatehouse.MySql.Stores
import Gatehouse.Proofs.Ending

set_option autoImplicit false

namespace Gatehouse.MySql

open Virtual (Ends)

/-! ## The database -/

/-- A database of which nothing is known. -/
structure Backend where
  State : Type
  login : State → ConnectOptions → Except Fault Unit × State
  /-- The connection that the pool gives, or why it gives none. -/
  connect : State → Except Fault Connection × State
  reply : State → Connection → Statement → Reply × State

/-- A statement that was sent on a connection, with its reply. -/
structure Sent where
  connection : Connection
  statement : Statement
  reply : Reply
  deriving DecidableEq, Repr, Inhabited

/-- A database with what was sent to it, in order. -/
structure Wire (B : Backend) where
  backend : B.State
  sent : List Sent
  /-- How often the pool had no connection to give. -/
  lost : Nat

namespace Wire

variable {B : Backend}

/-- A run of the stores on the database. -/
abbrev Run (B : Backend) := Virtual (Wire B)

/-- Sends a statement. -/
def send (w : Wire B) (c : Connection) (s : Statement) : Reply × Wire B :=
  ((B.reply w.backend c s).1,
    { backend := (B.reply w.backend c s).2
      sent := w.sent ++ [⟨c, s, (B.reply w.backend c s).1⟩]
      lost := w.lost })

/-- Takes a connection from the pool. -/
def connect (w : Wire B) : Except Fault Connection × Wire B :=
  match B.connect w.backend with
  | (.ok c, backend) => (.ok c, { w with backend })
  | (.error f, backend) => (.error f, { w with backend, lost := w.lost + 1 })

instance : MonadDatabase (Run B) where
  login options := Virtual.access fun w =>
    ((B.login w.backend options).1, { w with backend := (B.login w.backend options).2 })
  connect := Virtual.access connect
  send c s := Virtual.access fun w => w.send c s

/-- What happened on a wire: some statements were sent, and some connections not given. -/
structure Adds (w : Wire B) (said : List Sent) (lost : Nat) (w' : Wire B) : Prop where
  sent : w'.sent = w.sent ++ said
  lost : w'.lost = w.lost + lost

namespace Adds

variable {w w₁ w₂ : Wire B} {said later : List Sent} {lost more : Nat}

theorem refl (w : Wire B) : w.Adds [] 0 w := ⟨(List.append_nil _).symm, rfl⟩

theorem trans (h : w.Adds said lost w₁) (h₁ : w₁.Adds later more w₂) :
    w.Adds (said ++ later) (lost + more) w₂ where
  sent := by rw [h₁.sent, h.sent, List.append_assoc]
  lost := by rw [h₁.lost, h.lost, Nat.add_assoc]

end Adds

theorem adds_send (w : Wire B) (c : Connection) (s : Statement) :
    w.Adds [⟨c, s, (B.reply w.backend c s).1⟩] 0 (w.send c s).2 := ⟨rfl, rfl⟩

/-- A connection is given, or one more is not. -/
theorem connect_cases (w : Wire B) :
    (∃ c w', w.connect = (.ok c, w') ∧ w.Adds [] 0 w')
      ∨ ∃ f w', w.connect = (.error f, w') ∧ w.Adds [] 1 w' := by
  rw [connect]
  rcases B.connect w.backend with ⟨f | c, backend⟩
  · exact .inr ⟨f, _, rfl, (List.append_nil _).symm, rfl⟩
  · exact .inl ⟨c, _, rfl, (List.append_nil _).symm, rfl⟩

end Wire

/-! ## Statements and transactions -/

variable {B : Backend} {w : Wire B} {R : Cut → Wire B → Prop}

theorem Reply.affectedOr_eq_error {reply : Reply} {e : DatabaseError}
    (h : reply.affectedOr = .error e) : reply = .failed e := by
  cases reply with
  | failed e' =>
    cases h
    rfl
  | done n => cases h
  | rows found => cases h

theorem Reply.hasFailed_of_affectedOr {reply : Reply} {n : Nat} (h : reply.affectedOr = .ok n) :
    reply.hasFailed = false := by
  cases reply with
  | failed e => cases h
  | done n => rfl
  | rows found => rfl

theorem ends_execute {c : Connection} {s : Statement}
    {Q : Except DatabaseError Nat → Wire B → Prop}
    (h : ∀ reply w', w.Adds [⟨c, s, reply⟩] 0 w' → Q reply.affectedOr w') :
    Ends (execute c s : Wire.Run B (Except DatabaseError Nat)) w Q R := by
  refine .bind (.access ?_)
  exact .pure (h _ _ (w.adds_send c s))

/-- A transaction is open when the reply says so, and nothing is sent when no connection is
given. -/
theorem ends_openTransaction {Q : Except Fault Connection → Wire B → Prop}
    (opened : ∀ c reply w', reply.hasFailed = false →
      w.Adds [⟨c, .beginTransaction, reply⟩] 0 w' → Q (.ok c) w')
    (unopened : ∀ c e w', w.Adds [⟨c, .beginTransaction, .failed e⟩] 0 w' →
      Q (.error (.returned e)) w')
    (unconnected : ∀ f w', w.Adds [] 1 w' → Q (.error f) w') :
    Ends (openTransaction : Wire.Run B (Except Fault Connection)) w Q R := by
  refine .bind (.access ?_)
  obtain ⟨c, w₁, hconnect, hadds⟩ | ⟨f, w₁, hconnect, hadds⟩ := w.connect_cases
  · rw [hconnect]
    refine .bind (ends_execute ?_)
    intro reply w' hsent
    have hall := hadds.trans hsent
    cases haffected : reply.affectedOr with
    | ok n => exact .pure (opened c reply w' (Reply.hasFailed_of_affectedOr haffected) hall)
    | error e =>
      obtain rfl := Reply.affectedOr_eq_error haffected
      exact .pure (unopened c e w' hall)
  · rw [hconnect]
    exact .pure (unconnected f w₁ hadds)

theorem ends_abandon {c : Connection} {Q : Unit → Wire B → Prop}
    (h : ∀ reply w', w.Adds [⟨c, .rollbackTransaction, reply⟩] 0 w' → Q () w') :
    Ends (abandon c : Wire.Run B Unit) w Q R := by
  refine .bind (.access (.pure ?_))
  exact h _ _ (w.adds_send c .rollbackTransaction)

/-- Whether the end of a transaction by a statement is said so: once, and when the reply is
an error, the transaction is let go of. -/
def SaysEnd (c : Connection) (s : Statement) (closing : List Sent) : Prop :=
  ∃ reply rest, closing = ⟨c, s, reply⟩ :: rest
    ∧ (∀ x ∈ rest, x.connection = c ∧ x.statement = .rollbackTransaction)
    ∧ (reply.hasFailed = false → rest = [])

theorem ends_finish {c : Connection} {s : Statement} :
    Ends (finish c s : Wire.Run B (Except DatabaseError Unit)) w
      (fun _ w' => ∃ closing, w.Adds closing 0 w' ∧ SaysEnd c s closing) R := by
  refine .bind (ends_execute ?_)
  intro reply w₁ hsent
  cases haffected : reply.affectedOr with
  | ok n => exact .pure ⟨_, hsent, reply, [], rfl, nofun, fun _ => rfl⟩
  | error e =>
    obtain rfl := Reply.affectedOr_eq_error haffected
    refine .bind (ends_abandon ?_)
    intro reply w₂ hlast
    refine .pure ⟨_, hsent.trans hlast, .failed e, [⟨c, .rollbackTransaction, reply⟩], rfl, ?_,
      nofun⟩
    intro x hx
    rw [List.mem_singleton.1 hx]
    exact ⟨rfl, rfl⟩

/-! ## The transaction of a unit of work -/

/-- How a piece of a step comes to the connection of its transaction, from what the unit of
work holds before to what it holds after. -/
inductive Joined :
    Option Handle → List Sent → Nat → Except Failure Connection → Option Handle → Prop
  /-- The transaction that is open is used. -/
  | shared (c : Connection) :
      Joined (some (.transaction c)) [] 0 (.ok c) (some (.transaction c))
  /-- A transaction of another store is refused. -/
  | foreign (e : Failure) : Joined (some .foreign) [] 0 (.error e) (some .foreign)
  | opened (c : Connection) {reply : Reply} (done : reply.hasFailed = false) :
      Joined none [⟨c, .beginTransaction, reply⟩] 0 (.ok c) (some (.transaction c))
  | unopened (c : Connection) (e : DatabaseError) (f : Failure) :
      Joined none [⟨c, .beginTransaction, .failed e⟩] 0 (.error f) none
  /-- The pool gives no connection, and nothing is sent. -/
  | unconnected (f : Failure) : Joined none [] 1 (.error f) none

theorem ends_transaction {u : UnitOfWork Kinds} :
    Ends (Step.runOn (transaction : Step Kinds (Wire.Run B) Connection) u) w
      (fun p w' => ∃ said lost, w.Adds said lost w' ∧ Joined u.handle said lost p.1 p.2.handle)
      R := by
  have hget : Step.runOn (get : Step Kinds (Wire.Run B) (UnitOfWork Kinds)) u = pure (.ok u, u) :=
    rfl
  refine Step.ends_bind ?_
  rw [hget]
  refine .pure ?_
  dsimp only
  cases hhandle : u.handle with
  | some h =>
    cases h with
    | transaction c =>
      refine .pure ⟨[], 0, .refl w, ?_⟩
      rw [hhandle]
      exact .shared c
    | foreign =>
      refine .pure ⟨[], 0, .refl w, ?_⟩
      rw [hhandle]
      exact .foreign _
  | none =>
    refine Step.ends_bind (Step.ends_lift (ends_openTransaction ?_ ?_ ?_))
    · intro c reply w' hdone hsent
      refine Step.ends_bind (Step.ends_lift (.log ?_))
      exact .pure ⟨_, 0, hsent, .opened c hdone⟩
    · intro c e w' hsent
      refine .pure ⟨_, 0, hsent, ?_⟩
      rw [hhandle]
      exact .unopened c e _
    · intro f w' hlost
      refine .pure ⟨_, 1, hlost, ?_⟩
      rw [hhandle]
      exact .unconnected _

/-! ## The end of a unit of work -/

/-- What is said at the end of a unit of work that ends its transaction by a statement. -/
def SaysClosing (s : Statement) : Option Handle → List Sent → Prop
  | some (.transaction c), closing => SaysEnd c s closing
  | some .foreign, closing => closing = []
  | none, closing => closing = []

/-- Nothing waits for the end of a unit of work on the database but its transaction. -/
theorem eq_nil_of_empty (l : List Empty) : l = [] := by
  cases l with
  | nil => rfl
  | cons a _ => exact a.elim

theorem ends_commit {u : UnitOfWork Kinds} :
    Ends (u.commit : Wire.Run B (Except Failure Unit)) w
      (fun _ w' => ∃ closing, w.Adds closing 0 w'
        ∧ SaysClosing .commitTransaction u.handle closing) R := by
  have hlast : ∀ (first : List Failure) (w' : Wire B) (Q : Except Failure Unit → Wire B → Prop),
      (∀ r, Q r w') → Ends (do
        let failures := first ++ (← UnitOfWork.finishAll u.finishers)
        if failures.isEmpty then
          logDebug .unitOfWork "unit of work committed" []
          u.spent.drop
          pure (.ok ())
        else
          u.spent.drop
          pure (.error (.commit failures)) : Wire.Run B (Except Failure Unit)) w' Q R := by
    intro first w' Q h
    rw [eq_nil_of_empty u.finishers]
    refine .bind (.pure ?_)
    dsimp only
    split
    · exact .bind (.log (.bind (.pure (.pure (h _)))))
    · exact .bind (.pure (.pure (h _)))
  unfold UnitOfWork.commit
  dsimp only
  cases hhandle : u.handle with
  | none => exact .bind (.pure (hlast _ _ _ fun _ => ⟨[], .refl w, rfl⟩))
  | some h =>
    cases h with
    | foreign =>
      exact .bind (.pure (.bind (.pure (hlast _ _ _ fun _ => ⟨[], .refl w, rfl⟩))))
    | transaction c =>
      refine .bind (.bind (ends_finish.mono ?_ fun _ _ hR => hR))
      rintro (e | ⟨⟩) w' hsaid
      · exact .pure (.bind (.pure (hlast _ _ _ fun _ => hsaid)))
      · exact .pure (.bind (.pure (hlast _ _ _ fun _ => hsaid)))

theorem ends_rollback {u : UnitOfWork Kinds} :
    Ends (u.rollback : Wire.Run B Unit) w
      (fun _ w' => ∃ closing, w.Adds closing 0 w'
        ∧ SaysClosing .rollbackTransaction u.handle closing) R := by
  have hlast : ∀ (w' : Wire B) (Q : Unit → Wire B → Prop), Q () w' → Ends (do
        UnitOfWork.undoAll u.undos
        logDebug .unitOfWork "unit of work rolled back" []
        u.spent.drop : Wire.Run B Unit) w' Q R := by
    intro w' Q h
    rw [eq_nil_of_empty u.undos]
    exact .bind (.pure (.bind (.log (.pure h))))
  unfold UnitOfWork.rollback
  dsimp only
  cases hhandle : u.handle with
  | none => exact hlast _ _ ⟨[], .refl w, rfl⟩
  | some h =>
    cases h with
    | foreign => exact .bind (.pure (hlast _ _ ⟨[], .refl w, rfl⟩))
    | transaction c =>
      refine .bind (.bind (ends_finish.mono ?_ fun _ _ hR => hR))
      rintro (e | ⟨⟩) w' hsaid
      · exact .pure (.bind (.log (hlast _ _ hsaid)))
      · exact .pure (hlast _ _ hsaid)

end Gatehouse.MySql
