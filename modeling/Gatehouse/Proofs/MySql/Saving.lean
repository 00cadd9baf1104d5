/-
  Gatehouse/Proofs/MySql/Saving.lean --- what is sent to the database to save a batch of mails.

  A batch is saved in a transaction of its own: one INSERT for each mail without an id, then
  one UPDATE for the ids of the sent ones, if there are any, then COMMIT.  Whatever the
  database replies, these statements are sent in order up to the first reply that is an
  error, which is returned, and the transaction is then let go of.  When no connection is
  given, nothing is sent.

  Main definitions: `MySql.Divided`, `MySql.Writes`, `MySql.Transacted`, `MySql.BatchSaved`.
  Main statements: `MySql.Statement.placeholders_text`, `MySql.ends_saveBatch`,
  `MySql.saves_batch_in_order`.
-/
import Gatehouse.Proofs.MySql.Wire
import Mathlib.Data.List.Forall2

set_option autoImplicit false

namespace Gatehouse.MySql

open Virtual (Ends)

/-! ## Placeholders -/

/-- How many question marks a text has.  Comparing two counts must not compute them: the
literals are long. -/
@[irreducible] def placeholders (s : String) : Nat := s.toList.count '?'

theorem placeholders_ofList (cs : List Char) : placeholders (String.ofList cs) = cs.count '?' := by
  rw [placeholders, String.toList_ofList]

theorem placeholders_append {s t : String} {i j : Nat} (hs : placeholders s = i)
    (ht : placeholders t = j) : placeholders (s ++ t) = i + j := by
  rw [← hs, ← ht]
  simp only [placeholders, String.toList_append, List.count_append]

theorem placeholders_around {s t u : String} {i j k : Nat} (hs : placeholders s = i)
    (ht : placeholders t = j) (hu : placeholders u = k) : placeholders (s ++ t ++ u) = i + j + k :=
  placeholders_append (placeholders_append hs ht) hu

theorem placeholders_intercalate {sep : String} {n : Nat} {l : List String}
    (hsep : placeholders sep = 0) (h : ∀ s ∈ l, placeholders s = n) :
    placeholders (sep.intercalate l) = l.length * n := by
  induction l with
  | nil =>
    rw [List.length_nil, Nat.zero_mul]
    exact placeholders_ofList []
  | cons s rest ih =>
    obtain ⟨hs, hrest⟩ := List.forall_mem_cons.1 h
    cases rest with
    | nil => rw [String.intercalate_singleton, hs, List.length_singleton, Nat.one_mul]
    | cons t rest =>
      rw [String.intercalate_cons_cons, List.length_cons, Nat.succ_mul, Nat.add_comm]
      exact placeholders_around hs hsep (ih hrest)

theorem placeholders_schema : placeholders schema = 0 := by
  refine (placeholders_intercalate (placeholders_ofList _) ?_).trans (Nat.mul_zero _)
  repeat refine List.forall_mem_cons.2 ⟨placeholders_ofList _, ?_⟩
  exact List.forall_mem_nil _

theorem placeholders_userQuery (column : String) (h : placeholders column = 0) :
    placeholders (Statement.userQuery column) = 1 :=
  placeholders_around (placeholders_ofList _) h (placeholders_ofList _)

theorem placeholders_credentialTable (kind : CredentialKind) :
    placeholders (credentialTable kind) = 0 := by
  cases kind with
  | activation => exact placeholders_ofList _
  | recovery => exact placeholders_ofList _

/-- As many question marks as there are ids, with commas between them. -/
theorem placeholders_marks (ids : List Uuid) :
    placeholders (", ".intercalate (ids.map fun _ => "?")) = ids.length := by
  have one : ∀ s ∈ ids.map fun _ => "?", placeholders s = 1 := by
    intro s hs
    obtain ⟨_, -, rfl⟩ := List.mem_map.1 hs
    exact placeholders_ofList _
  rw [placeholders_intercalate (placeholders_ofList _) one, List.length_map, Nat.mul_one]

/-- A statement has one question mark for each value that is bound to it. -/
theorem Statement.placeholders_text (s : Statement) : placeholders s.text = s.binds.length := by
  cases s with
  | migrate => exact placeholders_schema
  | userById id => exact placeholders_userQuery "id" (placeholders_ofList _)
  | userByEmail email => exact placeholders_userQuery "email" (placeholders_ofList _)
  | findCredential kind token =>
    exact placeholders_around (placeholders_ofList _) (placeholders_credentialTable kind)
      (placeholders_ofList _)
  | insertCredential kind c =>
    exact (placeholders_around (placeholders_ofList _) (placeholders_credentialTable kind)
      (placeholders_ofList _)).trans rfl
  | deleteCredential kind token =>
    exact placeholders_around (placeholders_ofList _) (placeholders_credentialTable kind)
      (placeholders_ofList _)
  | pendingMails limit =>
    exact placeholders_append (placeholders_ofList _) (placeholders_ofList _)
  | insertMail id mail =>
    exact (placeholders_append (placeholders_ofList _) (placeholders_ofList _)).trans rfl
  | markSent ids =>
    refine (placeholders_around (placeholders_ofList _) (placeholders_marks ids)
      (placeholders_ofList _)).trans ?_
    rw [binds, List.length_map]
    exact Nat.zero_add _
  | _ => exact placeholders_ofList _

/-! ## The statements of a batch -/

/-- How a batch is divided: the mails that are inserted and the ids that are marked, both in
the order of the batch. -/
inductive Divided : List Mail → List Mail → List Uuid → Prop
  | nil : Divided [] [] []
  | unstored {mail : Mail} {rest new : List Mail} {sent : List Uuid} (unknown : mail.id = none)
      (more : Divided rest new sent) : Divided (mail :: rest) (mail :: new) sent
  | delivered {mail : Mail} {id : Uuid} {rest new : List Mail} {sent : List Uuid}
      (stored : mail.id = some id) (mailed : mail.mailed = true) (more : Divided rest new sent) :
      Divided (mail :: rest) new (id :: sent)
  | pending {mail : Mail} {id : Uuid} {rest new : List Mail} {sent : List Uuid}
      (stored : mail.id = some id) (mailed : mail.mailed = false) (more : Divided rest new sent) :
      Divided (mail :: rest) new sent

/-- The two passes over a batch divide it. -/
theorem divided (mails : List Mail) :
    Divided mails (mails.filter fun mail => !mail.isStored) (sentIds mails) := by
  induction mails with
  | nil => exact .nil
  | cons mail rest ih =>
    cases hid : mail.id with
    | none =>
      have hsent : sentIds (mail :: rest) = sentIds rest := by
        cases hmailed : mail.mailed with
        | false => rw [sentIds, sentIds, List.filter_cons_of_neg (by simp [hmailed])]
        | true =>
          rw [sentIds, sentIds, List.filter_cons_of_pos hmailed, List.filterMap_cons_none hid]
      rw [hsent, List.filter_cons_of_pos (by simp [Mail.isStored, hid])]
      exact .unstored hid ih
    | some id =>
      rw [List.filter_cons_of_neg (by simp [Mail.isStored, hid])]
      cases hmailed : mail.mailed with
      | false =>
        rw [sentIds, List.filter_cons_of_neg (by simp [hmailed])]
        exact .pending hid hmailed ih
      | true =>
        rw [sentIds, List.filter_cons_of_pos hmailed, List.filterMap_cons_some hid]
        exact .delivered hid hmailed ih

/-- Whether a statement adds a mail with what it says and its state of delivery, under some
id. -/
def Statement.Inserts (mail : Mail) (s : Statement) : Prop :=
  ∃ id : Uuid, s = .insertMail id mail
    ∧ s.binds = [.text id.text, .text mail.address, .text mail.subject, .text mail.content,
      .flag mail.mailed]

/-- Whether some statements mark mails as delivered: one does, with an id bound to each of its
question marks in order, or none when there are no ids. -/
inductive Marking : List Uuid → List Statement → Prop
  | none : Marking [] []
  | one {ids : List Uuid} (some : ids ≠ []) (s : Statement) (marks : s = .markSent ids)
      (binds : s.binds = ids.map fun id => .text id.text)
      (holes : placeholders s.text = ids.length) : Marking ids [s]

/-- Whether some statements keep a batch: one for each new mail, and then the one for the mails
that were sent. -/
def Writes (mails : List Mail) (writes : List Statement) : Prop :=
  ∃ new sent inserts marking, Divided mails new sent
    ∧ List.Forall₂ Statement.Inserts new inserts ∧ Marking sent marking
    ∧ writes = inserts ++ marking

/-! ## Sending them -/

/-- What an operation that sends a statement of a batch is called in failures. -/
def purpose : Statement → String
  | .beginTransaction => "begin mail save"
  | .insertMail _ _ => "insert mail"
  | .markSent _ => "mark mails sent"
  | .commitTransaction => "commit mail save"
  | _ => ""

/-- How some statements are sent on a connection: in order up to the first reply that is an
error, after which the transaction is let go of, or all of them. -/
inductive Transacted (c : Connection) : List Statement → List Sent → Except Failure Unit → Prop
  | done : Transacted c [] [] (.ok ())
  | failed {s : Statement} {rest : List Statement} (e : DatabaseError) (reply : Reply) :
      Transacted c (s :: rest) [⟨c, s, .failed e⟩, ⟨c, .rollbackTransaction, reply⟩]
        (.error (failedTo (purpose s) e))
  | sent {s : Statement} {rest : List Statement} {said : List Sent} {r : Except Failure Unit}
      {reply : Reply} (done : reply.hasFailed = false) (more : Transacted c rest said r) :
      Transacted c (s :: rest) (⟨c, s, reply⟩ :: said) r

/-- What is said to save a batch, how often no connection was given for it, and the result: no
transaction could be opened, or the statements of the batch and COMMIT are sent in one. -/
inductive BatchSaved (mails : List Mail) : List Sent → Nat → Except Failure Unit → Prop
  | unconnected (f : Fault) :
      BatchSaved mails [] 1 (.error (failedBy (purpose .beginTransaction) f))
  | unopened (c : Connection) (e : DatabaseError) :
      BatchSaved mails [⟨c, .beginTransaction, .failed e⟩] 0
        (.error (failedTo (purpose .beginTransaction) e))
  | opened {c : Connection} {reply : Reply} (done : reply.hasFailed = false)
      {writes : List Statement} (keep : Writes mails writes) {said : List Sent}
      {r : Except Failure Unit}
      (transacted : Transacted c (writes ++ [.commitTransaction]) said r) :
      BatchSaved mails (⟨c, .beginTransaction, reply⟩ :: said) 0 r

/-- Whether what is said later lets go of the transaction if the earlier reply was an error. -/
def Sent.BreaksOff (earlier later : Sent) : Prop :=
  earlier.reply.hasFailed = true → later.statement = .rollbackTransaction

theorem Sent.breaksOff_of_done {c : Connection} {s : Statement} {reply : Reply}
    (done : reply.hasFailed = false) (later : Sent) : Sent.BreaksOff ⟨c, s, reply⟩ later :=
  fun failed => nomatch done.symm.trans failed

namespace Transacted

variable {c : Connection} {first later : List Statement} {said said' : List Sent}
  {r : Except Failure Unit}

theorem append (h : Transacted c first said (.ok ())) (h' : Transacted c later said' r) :
    Transacted c (first ++ later) (said ++ said') r := by
  generalize hr : Except.ok () = r₁ at h
  induction h with
  | done => exact h'
  | failed e reply => cases hr
  | sent done _ ih => exact .sent done (ih hr)

theorem append_of_error {f : Failure} (h : Transacted c first said (.error f)) :
    Transacted c (first ++ later) said (.error f) := by
  generalize hr : Except.error f = r₁ at h ⊢
  induction h with
  | done => cases hr
  | failed e reply => exact .failed e reply
  | sent done _ ih => exact .sent done (ih hr)

theorem ok_iff (h : Transacted c first said r) :
    r = .ok () ↔ ∀ x ∈ said, x.reply.hasFailed = false := by
  induction h with
  | done => exact iff_of_true rfl nofun
  | failed e reply => exact iff_of_false nofun fun h => nomatch h _ List.mem_cons_self
  | sent done _ ih => rw [ih, List.forall_mem_cons, and_iff_right done]

theorem statements_of_ok (h : Transacted c first said (.ok ())) :
    said.map Sent.statement = first := by
  generalize hr : Except.ok () = r at h
  induction h with
  | done => rfl
  | failed e reply => cases hr
  | sent done _ ih => rw [List.map_cons, ih hr]

theorem after_failure (h : Transacted c first said r) : said.Pairwise Sent.BreaksOff := by
  induction h with
  | done => exact .nil
  | failed e reply => exact List.pairwise_pair.2 fun _ => rfl
  | sent done _ ih => exact .cons (fun y _ => Sent.breaksOff_of_done done y) ih

end Transacted

namespace BatchSaved

variable {mails : List Mail} {said : List Sent} {lost : Nat} {r : Except Failure Unit}

theorem ok_iff (h : BatchSaved mails said lost r) :
    r = .ok () ↔ lost = 0 ∧ ∀ x ∈ said, x.reply.hasFailed = false := by
  cases h with
  | unconnected f => exact iff_of_false nofun fun h => nomatch h.1
  | unopened c e => exact iff_of_false nofun fun h => nomatch h.2 _ List.mem_cons_self
  | opened done keep transacted =>
    rw [and_iff_right rfl, transacted.ok_iff, List.forall_mem_cons, and_iff_right done]

/-- A batch that is saved was sent as a whole, with COMMIT at its end. -/
theorem statements_of_ok (h : BatchSaved mails said lost (.ok ())) :
    ∃ writes, Writes mails writes
      ∧ said.map Sent.statement = .beginTransaction :: (writes ++ [.commitTransaction]) := by
  cases h with
  | opened done keep transacted => exact ⟨_, keep, congrArg _ transacted.statements_of_ok⟩

theorem after_failure (h : BatchSaved mails said lost r) : said.Pairwise Sent.BreaksOff := by
  cases h with
  | unconnected f => exact .nil
  | unopened c e => exact List.pairwise_singleton _ _
  | opened done keep transacted =>
    exact .cons (fun y _ => Sent.breaksOff_of_done done y) transacted.after_failure

end BatchSaved

section

variable {B : Backend} {w : Wire B} {R : Cut → Wire B → Prop} {c : Connection}
  {P P' : List Statement → Prop}

/-- What work says that sends some statements on a connection, up to the first error. -/
def Says (c : Connection) (P : List Statement → Prop) (w : Wire B) (r : Except Failure Unit)
    (w' : Wire B) : Prop :=
  ∃ statements said, P statements ∧ w.Adds said 0 w' ∧ Transacted c statements said r

theorem Says.mono {r : Except Failure Unit} {w' : Wire B} (h : Says c P w r w')
    (weaken : ∀ statements, P statements → P' statements) : Says c P' w r w' := by
  obtain ⟨statements, said, hP, hsaid⟩ := h
  exact ⟨statements, said, weaken _ hP, hsaid⟩

/-- The statements of one piece of work followed by those of another. -/
def Followed (P P' : List Statement → Prop) (statements : List Statement) : Prop :=
  ∃ first later, P first ∧ P' later ∧ statements = first ++ later

theorem ends_nothing (h : P []) :
    Ends (pure () : ExceptT Failure (Wire.Run B) Unit).run w (Says c P w) R :=
  .pure ⟨[], [], h, .refl w, .done⟩

theorem ends_followed {x y : ExceptT Failure (Wire.Run B) Unit}
    (first : Ends x.run w (Says c P w) R) (later : ∀ w', Ends y.run w' (Says c P' w') R)
    (possible : ∃ statements, P' statements) :
    Ends (x >>= fun _ => y).run w (Says c (Followed P P') w) R := by
  refine .attempt_bind (first.mono ?_ fun _ _ hR => hR)
  rintro (f | ⟨⟩) w₁ ⟨statements, said, hP, hsent, htransacted⟩
  · -- Nothing of the later work is sent, so any of its statements stand for it.
    obtain ⟨statements', hP'⟩ := possible
    exact ⟨_, said, ⟨statements, statements', hP, hP', rfl⟩, hsent, htransacted.append_of_error⟩
  · refine (later w₁).mono ?_ fun _ _ hR => hR
    rintro r w₂ ⟨statements', said', hP', hsent', htransacted'⟩
    exact ⟨_, said ++ said', ⟨statements, statements', hP, hP', rfl⟩, hsent.trans hsent',
      htransacted.append htransacted'⟩

/-- A statement of a batch is sent. -/
theorem ends_batchStatement (s : Statement) :
    Ends (batchStatement c (purpose s) s : ExceptT Failure (Wire.Run B) Unit).run w
      (Says c (· = [s]) w) R := by
  refine .attempt_bind (.attempt_lift (ends_execute ?_))
  intro reply w₁ hsent
  dsimp only
  cases haffected : reply.affectedOr with
  | ok n => exact .pure ⟨_, _, rfl, hsent, .sent (Reply.hasFailed_of_affectedOr haffected) .done⟩
  | error e =>
    obtain rfl := Reply.affectedOr_eq_error haffected
    refine .attempt_bind (.attempt_lift (ends_abandon ?_))
    intro reply w₂ hlast
    exact .pure ⟨_, _, rfl, hsent.trans hlast, .failed e reply⟩

theorem exists_inserts (new : List Mail) : ∃ l, List.Forall₂ Statement.Inserts new l := by
  refine ⟨new.map (.insertMail default), ?_⟩
  rw [List.forall₂_map_right_iff]
  exact List.forall₂_same.2 fun mail _ => ⟨_, rfl, rfl⟩

theorem ends_insertMails (new : List Mail) :
    Ends (insertMails c new : ExceptT Failure (Wire.Run B) Unit).run w
      (Says c (List.Forall₂ Statement.Inserts new) w) R := by
  induction new generalizing w with
  | nil => exact ends_nothing .nil
  | cons mail rest ih =>
    refine .attempt_bind (.attempt_lift (.freshId fun id => ?_))
    refine (ends_followed (ends_batchStatement (.insertMail id mail)) (fun _ => ih)
      (exists_inserts rest)).mono (fun _ _ hsays => hsays.mono ?_) fun _ _ hR => hR
    rintro _ ⟨_, later, rfl, hlater, rfl⟩
    exact .cons ⟨id, rfl, rfl⟩ hlater

theorem marking (ids : List Uuid) : Marking ids (if ids.isEmpty then [] else [.markSent ids]) := by
  cases ids with
  | nil => exact .none
  | cons id rest =>
    have hlength : (Statement.markSent (id :: rest)).binds.length = (id :: rest).length :=
      List.length_map _
    exact .one (List.cons_ne_nil _ _) _ rfl rfl ((Statement.placeholders_text _).trans hlength)

/-- The ids are marked if there are any, and either way the same work follows. -/
theorem ends_marks (ids : List Uuid) {y : ExceptT Failure (Wire.Run B) Unit}
    (later : ∀ w', Ends y.run w' (Says c P w') R) (possible : ∃ statements, P statements) :
    Ends (if ids.isEmpty then y
      else batchStatement c "mark mails sent" (.markSent ids) >>= fun _ => y).run w
      (Says c (Followed (Marking ids) P) w) R := by
  have h := marking ids
  split at h
  · rename_i hempty
    rw [if_pos hempty]
    exact (later w).mono (fun _ _ hsays => hsays.mono fun _ hP => ⟨[], _, h, hP, rfl⟩)
      fun _ _ hR => hR
  · rename_i hempty
    rw [if_neg hempty]
    refine (ends_followed (ends_batchStatement (.markSent ids)) later possible).mono
      (fun _ _ hsays => hsays.mono ?_) fun _ _ hR => hR
    rintro _ ⟨_, statements, rfl, hP, rfl⟩
    exact ⟨_, statements, h, hP, rfl⟩

/-- The transaction of a batch is ended. -/
theorem ends_commitBatch :
    Ends (do
      match ← ExceptT.lift (finish c .commitTransaction) with
      | .ok () => pure ()
      | .error e => throw (failedTo "commit mail save" e) :
        ExceptT Failure (Wire.Run B) Unit).run w (Says c (· = [.commitTransaction]) w) R := by
  refine .attempt_bind (.attempt_lift (.bind (ends_execute ?_)))
  intro reply w₁ hsent
  cases haffected : reply.affectedOr with
  | ok n =>
    have hdone := Reply.hasFailed_of_affectedOr haffected
    exact .pure (.pure ⟨_, _, rfl, hsent, .sent hdone .done⟩)
  | error e =>
    obtain rfl := Reply.affectedOr_eq_error haffected
    refine .bind (ends_abandon ?_)
    intro reply w₂ hlast
    exact .pure (.pure ⟨_, _, rfl, hsent.trans hlast, .failed e reply⟩)

/-- Saving a batch. -/
theorem ends_saveBatch (mails : List Mail) :
    Ends (Outbox.saveBatch mails : Wire.Run B (Except Failure Unit)) w
      (fun r w' => ∃ said lost, w.Adds said lost w' ∧ BatchSaved mails said lost r) R := by
  refine .attempt_bind (.attempt_lift (ends_openTransaction ?_ ?_ ?_))
  · intro c reply w₁ hdone hsent
    refine (ends_followed (ends_insertMails _)
      (fun _ => ends_marks (sentIds mails) (fun _ => ends_commitBatch) ⟨_, rfl⟩)
      ⟨_, _, _, marking _, rfl, rfl⟩).mono ?_ fun _ _ hR => hR
    rintro r w₂ ⟨_, said, ⟨inserts, _, hinserts, ⟨marks, _, hmarks, rfl, rfl⟩, rfl⟩, hlater,
      htransacted⟩
    rw [← List.append_assoc] at htransacted
    exact ⟨_, 0, hsent.trans hlater,
      .opened hdone ⟨_, _, inserts, marks, divided mails, hinserts, hmarks, rfl⟩ htransacted⟩
  · intro c e w₁ hsent
    exact .pure ⟨_, 0, hsent, .unopened c e⟩
  · intro f w₁ hlost
    exact .pure ⟨_, 1, hlost, .unconnected f⟩

end

/-- Whatever the database replies, a batch of mails is saved in one transaction: one INSERT for
each mail without an id, in order, then one UPDATE for the ids of the stored mails that were
sent, in order, if there are any, then COMMIT.  Each statement is sent only if no reply before
it was an error; the first error is returned, and then nothing is sent but one ROLLBACK.  When
the pool has no connection to give, that is returned and nothing is sent.  The batch is saved
exactly if there was a connection and no reply was an error, the one to COMMIT at the end
included. -/
theorem saves_batch_in_order (B : Backend) (mails : List Mail) (rt : Runtime (Wire B)) :
    ∃ result said lost rt',
      (Outbox.saveBatch mails : Wire.Run B (Except Failure Unit)).runOn rt = (.ok result, rt')
        ∧ rt'.world.sent = rt.world.sent ++ said
        ∧ rt'.world.lost = rt.world.lost + lost
        ∧ BatchSaved mails said lost result
        ∧ (∀ x ∈ said, placeholders x.statement.text = x.statement.binds.length)
        ∧ (result = .ok () ↔ lost = 0 ∧ ∀ x ∈ said, x.reply.hasFailed = false)
        ∧ (result = .ok () → ∃ writes, Writes mails writes
          ∧ said.map Sent.statement = .beginTransaction :: (writes ++ [.commitTransaction]))
        ∧ said.Pairwise Sent.BreaksOff := by
  obtain ⟨result, rt', hrun, -, -, hend⟩ :=
    ends_saveBatch (R := fun _ _ => False) mails rt rfl
  cases result with
  | error c => exact hend.2.elim
  | ok result =>
    obtain ⟨said, lost, hadds, saved⟩ := hend
    refine ⟨result, said, lost, rt', hrun, hadds.sent, hadds.lost, saved,
      fun x _ => x.statement.placeholders_text, saved.ok_iff, ?_, saved.after_failure⟩
    rintro rfl
    exact saved.statements_of_ok

end Gatehouse.MySql
