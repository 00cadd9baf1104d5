/-
  Gatehouse/Proofs/Work/Settling.lean --- how a unit of work is filled and ended.

  Transactions and actions may succeed or fail in any way.  A commit and a rollback make
  exactly the requests that were registered for them, each once and in order, whatever
  fails on the way; a commit gives exactly the failures that it met.  Of several
  transactions only the first is installed.  A step in a unit of work of its own ends it in
  one of three ways.

  Main definitions: `UnitOfWork.committing`, `UnitOfWork.discarding`, `UnitOfWork.undoing`,
  `UnitOfWork.Settled`, `UnitOfWork.notes`, `Registration`.
  Main statements: `UnitOfWork.runs_commit`, `UnitOfWork.runs_rollback`,
  `UnitOfWork.runs_perform`, `UnitOfWork.settles_as_registered`.
-/
import Gatehouse.Proofs.Dialogue

set_option autoImplicit false

namespace Gatehouse

open Dialogue

variable {K : UnitKinds}

/-- The failures among some outcomes, in order. -/
def failuresOf (outcomes : List (Except Failure Unit)) : List Failure :=
  outcomes.filterMap fun r => match r with
    | .ok () => none
    | .error e => some e

theorem failuresOf_append (first rest : List (Except Failure Unit)) :
    failuresOf (first ++ rest) = failuresOf first ++ failuresOf rest :=
  List.filterMap_append

namespace UnitOfWork

/-! ## What the log tells -/

/-- The entry of a unit of work in the log. -/
def note (level : LogLevel) (message : String) (fields : List (String × LogValue)) : LogEvent :=
  { level, source := .unitOfWork, message, fields }

/-- A unit of work was opened. -/
def openedNote : LogEvent := note .debug "unit of work opened" []

/-- Everything in a unit of work was committed. -/
def committedNote : LogEvent := note .debug "unit of work committed" []

/-- A transaction could not be discarded. -/
def undiscardedNote (e : Failure) : LogEvent :=
  note .warn "Failed to roll back store transaction" [("error", .text e.message)]

/-- Everything in a unit of work was rolled back. -/
def rolledBackNote : LogEvent := note .debug "unit of work rolled back" []

/-- A unit of work was let go before it was ended. -/
def droppedNote : LogEvent := note .warn "unit of work dropped without commit or rollback" []

/-! ## Commit -/

/-- The requests of a commit, to be told with their answers: the transaction first, then
every finishing action in order. -/
def committing (handle : Option K.Handle) (finishers : List K.Finish) :
    List (Except Failure Unit → Exchange K) :=
  (handle.toList.map fun h r => ⟨.commitHandle h, r⟩) ++ finishers.map fun a r => ⟨.runFinish a, r⟩

/-- Requests with their answers. -/
def answered (requests : List (Except Failure Unit → Exchange K))
    (outcomes : List (Except Failure Unit)) : List (Exchange K) :=
  List.zipWith (fun request r => request r) requests outcomes

/-- The requests of a commit are about its transaction and its finishing actions. -/
theorem mem_answered {handle : Option K.Handle} {finishers : List K.Finish}
    {outcomes : List (Except Failure Unit)} {x : Exchange K}
    (hx : x ∈ answered (committing handle finishers) outcomes) :
    (∃ h r, x = ⟨.commitHandle h, r⟩) ∨ ∃ a r, x = ⟨.runFinish a, r⟩ := by
  obtain ⟨i, hi, rfl⟩ := List.mem_iff_getElem.1 hx
  unfold answered at hi ⊢
  rw [List.getElem_zipWith]
  have hi := List.lt_length_left_of_zipWith hi
  rcases List.mem_append.1 (List.getElem_mem hi) with hhandle | hfinish
  · obtain ⟨h, -, hrequest⟩ := List.mem_map.1 hhandle
    rw [← hrequest]
    exact Or.inl ⟨h, _, rfl⟩
  · obtain ⟨a, -, hrequest⟩ := List.mem_map.1 hfinish
    rw [← hrequest]
    exact Or.inr ⟨a, _, rfl⟩

/-- What is logged at the end of a commit: nothing if there were failures. -/
def committedLog : List Failure → List (Exchange K)
  | [] => [⟨.log committedNote, ()⟩]
  | _ => []

/-- What a commit gives. -/
def verdict : List Failure → Except Failure Unit
  | [] => .ok ()
  | failures => .error (.commit failures)

theorem runs_finishAll {finishers : List K.Finish} {said : List (Exchange K)}
    {failures : List Failure} :
    (finishAll finishers : Dialogue K (List Failure)).Runs said failures
      ↔ ∃ outcomes, outcomes.length = finishers.length
        ∧ said = answered (committing none finishers) outcomes
        ∧ failures = failuresOf outcomes := by
  induction finishers generalizing said failures with
  | nil =>
    rw [finishAll, runs_pure]
    constructor
    · rintro ⟨rfl, rfl⟩
      exact ⟨[], rfl, rfl, rfl⟩
    · rintro ⟨outcomes, hlength, rfl, rfl⟩
      obtain rfl := List.eq_nil_of_length_eq_zero hlength
      exact ⟨rfl, rfl⟩
  | cons a rest ih =>
    rw [finishAll, runs_bind]
    constructor
    · rintro ⟨_, outcome, _, rfl, hfirst, htail⟩
      obtain rfl := runs_send.1 hfirst
      obtain ⟨_, failures', _, rfl, hrest, hlast⟩ := runs_bind.1 htail
      obtain ⟨outcomes, hlength, rfl, rfl⟩ := ih.1 hrest
      refine ⟨outcome :: outcomes, congrArg Nat.succ hlength, ?_⟩
      rcases outcome with e | ⟨⟩
      · obtain ⟨rfl, rfl⟩ := hlast
        exact ⟨by simp [answered, committing], rfl⟩
      · obtain ⟨rfl, rfl⟩ := hlast
        exact ⟨by simp [answered, committing], rfl⟩
    · rintro ⟨outcomes, hlength, rfl, rfl⟩
      obtain ⟨outcome, outcomes, rfl⟩ := List.exists_cons_of_length_eq_add_one hlength
      refine ⟨_, outcome, _, rfl, runs_send.2 rfl, ?_⟩
      have hrest := ih.2 ⟨outcomes, Nat.succ.inj hlength, rfl, rfl⟩
      refine runs_bind.2 ⟨_, _, [], ?_, hrest, ?_⟩
      · exact (List.append_nil _).symm
      · rcases outcome with e | ⟨⟩
        · exact ⟨rfl, rfl⟩
        · exact ⟨rfl, rfl⟩

/-- The end of a commit whose transaction has met some failures. -/
def concluding (u : UnitOfWork K) (first : List Failure) :
    Dialogue K (Except Failure Unit) := do
  let failures := first ++ (← finishAll u.finishers)
  if failures.isEmpty then
    logDebug .unitOfWork "unit of work committed" []
    u.spent.drop
    pure (.ok ())
  else
    u.spent.drop
    pure (.error (.commit failures))

theorem commit_of_none {u : UnitOfWork K} (h : u.handle = none) :
    (u.commit : Dialogue K (Except Failure Unit)) = u.concluding [] := by
  rw [commit, h]
  rfl

theorem commit_of_some {u : UnitOfWork K} {handle : K.Handle} (h : u.handle = some handle) :
    (u.commit : Dialogue K (Except Failure Unit))
      = send (.commitHandle handle) >>= fun r => u.concluding (failuresOf [r]) := by
  rw [commit, h]
  refine congrArg (Bind.bind _) (funext fun r => ?_)
  rcases r with e | ⟨⟩
  · rfl
  · rfl

theorem runs_concluding {u : UnitOfWork K} {first : List Failure} {said : List (Exchange K)}
    {r : Except Failure Unit} :
    (u.concluding first).Runs said r
      ↔ ∃ outcomes, outcomes.length = u.finishers.length
        ∧ said = answered (committing none u.finishers) outcomes
            ++ committedLog (first ++ failuresOf outcomes)
        ∧ r = verdict (first ++ failuresOf outcomes) := by
  -- what comes after the finishing actions depends on the failures alone
  have last : ∀ failures (rest : List (Exchange K)),
      (do
        if failures.isEmpty then
          logDebug .unitOfWork "unit of work committed" []
          u.spent.drop
          pure (.ok ())
        else
          u.spent.drop
          pure (.error (.commit failures)) : Dialogue K (Except Failure Unit)).Runs rest r
        ↔ rest = committedLog failures ∧ r = verdict failures := by
    intro failures rest
    cases failures with
    | nil =>
      constructor
      · rintro ⟨⟨⟩, _, rfl, rfl, rfl⟩
        exact ⟨rfl, rfl⟩
      · rintro ⟨rfl, rfl⟩
        exact ⟨(), [], rfl, rfl, rfl⟩
    | cons e failures =>
      constructor
      · rintro ⟨rfl, rfl⟩
        exact ⟨rfl, rfl⟩
      · rintro ⟨rfl, rfl⟩
        exact ⟨rfl, rfl⟩
  rw [concluding, runs_bind]
  constructor
  · rintro ⟨_, failures, rest, rfl, hfinish, hlast⟩
    obtain ⟨outcomes, hlength, rfl, rfl⟩ := runs_finishAll.1 hfinish
    obtain ⟨rfl, rfl⟩ := (last _ rest).1 hlast
    exact ⟨outcomes, hlength, rfl, rfl⟩
  · rintro ⟨outcomes, hlength, rfl, rfl⟩
    exact ⟨_, _, _, rfl, runs_finishAll.2 ⟨outcomes, hlength, rfl, rfl⟩, (last _ _).2 ⟨rfl, rfl⟩⟩

/-- A commit makes the requests that were registered for it, each once, and gives the
failures that it met. -/
theorem runs_commit {u : UnitOfWork K} {said : List (Exchange K)} {r : Except Failure Unit} :
    (u.commit : Dialogue K (Except Failure Unit)).Runs said r
      ↔ ∃ outcomes, outcomes.length = (committing u.handle u.finishers).length
        ∧ said = answered (committing u.handle u.finishers) outcomes
            ++ committedLog (failuresOf outcomes)
        ∧ r = verdict (failuresOf outcomes) := by
  cases h : u.handle with
  | none =>
    rw [commit_of_none h, runs_concluding]
    simp only [committing, Option.toList_none, List.map_nil, List.nil_append, List.length_map]
  | some handle =>
    rw [commit_of_some h, runs_bind]
    constructor
    · rintro ⟨_, outcome, _, rfl, hfirst, hrest⟩
      obtain rfl := runs_send.1 hfirst
      obtain ⟨outcomes, hlength, rfl, rfl⟩ := runs_concluding.1 hrest
      rw [← failuresOf_append]
      exact ⟨outcome :: outcomes, by simpa [committing] using hlength, rfl, rfl⟩
    · rintro ⟨outcomes, hlength, rfl, rfl⟩
      obtain ⟨outcome, outcomes, rfl⟩ := List.exists_cons_of_length_eq_add_one hlength
      have hlength : outcomes.length = u.finishers.length := by
        simpa [committing] using hlength
      have hfailures : failuresOf (outcome :: outcomes)
          = failuresOf [outcome] ++ failuresOf outcomes := failuresOf_append [outcome] outcomes
      rw [hfailures]
      refine ⟨[⟨.commitHandle handle, outcome⟩], outcome, _, rfl, runs_send.2 rfl, ?_⟩
      exact runs_concluding.2 ⟨outcomes, hlength, rfl, rfl⟩

/-! ## Rollback -/

/-- What is said when a transaction is discarded; a failure is only logged. -/
def discarding : Option K.Handle → Except Failure Unit → List (Exchange K)
  | none, _ => []
  | some h, .ok () => [⟨.rollbackHandle h, .ok ()⟩]
  | some h, .error e => [⟨.rollbackHandle h, .error e⟩, ⟨.log (undiscardedNote e), ()⟩]

/-- What is said when every undo action is run, in order. -/
def undoing (undos : List K.Undo) : List (Exchange K) :=
  (undos.map fun a => ⟨.runUndo a, ()⟩) ++ [⟨.log rolledBackNote, ()⟩]

theorem runs_undoAll {undos : List K.Undo} {said : List (Exchange K)} {r : Unit} :
    (undoAll undos : Dialogue K Unit).Runs said r
      ↔ said = undos.map fun a => ⟨.runUndo a, ()⟩ := by
  induction undos generalizing said with
  | nil =>
    rw [undoAll, runs_pure]
    exact and_iff_left rfl
  | cons a rest ih =>
    rw [undoAll, runs_bind]
    constructor
    · rintro ⟨_, _, _, rfl, hfirst, hrest⟩
      rw [runs_send.1 hfirst, ih.1 hrest]
      rfl
    · rintro rfl
      exact ⟨[⟨.runUndo a, ()⟩], (), _, rfl, runs_send.2 rfl, ih.2 rfl⟩

/-- The end of a rollback, after the transaction was discarded. -/
def unwinding (u : UnitOfWork K) : Dialogue K Unit := do
  undoAll u.undos
  logDebug .unitOfWork "unit of work rolled back" []
  u.spent.drop

theorem runs_unwinding {u : UnitOfWork K} {said : List (Exchange K)} {r : Unit} :
    u.unwinding.Runs said r ↔ said = undoing u.undos := by
  rw [unwinding, runs_bind]
  constructor
  · rintro ⟨_, _, _, rfl, hundo, ⟨⟩, _, rfl, rfl, -⟩
    rw [runs_undoAll.1 hundo]
    rfl
  · rintro rfl
    exact ⟨_, (), _, rfl, runs_undoAll.2 rfl, (), [], rfl, rfl, rfl⟩

theorem rollback_of_none {u : UnitOfWork K} (h : u.handle = none) :
    (u.rollback : Dialogue K Unit) = u.unwinding := by
  rw [rollback, h]
  rfl

theorem rollback_of_some {u : UnitOfWork K} {handle : K.Handle} (h : u.handle = some handle) :
    (u.rollback : Dialogue K Unit)
      = send (.rollbackHandle handle) >>= fun r => match r with
        | .ok () => u.unwinding
        | .error e => send (.log (undiscardedNote e)) >>= fun _ => u.unwinding := by
  rw [rollback, h]
  refine congrArg (Bind.bind _) (funext fun r => ?_)
  rcases r with e | ⟨⟩
  · rfl
  · rfl

/-- A rollback makes the requests that were registered for it, each once, whether or not
the transaction can be discarded. -/
theorem runs_rollback {u : UnitOfWork K} {said : List (Exchange K)} {r : Unit} :
    (u.rollback : Dialogue K Unit).Runs said r
      ↔ ∃ discarded, said = discarding u.handle discarded ++ undoing u.undos := by
  cases h : u.handle with
  | none =>
    rw [rollback_of_none h, runs_unwinding]
    constructor
    · rintro rfl
      exact ⟨.ok (), rfl⟩
    · rintro ⟨_, rfl⟩
      rfl
  | some handle =>
    rw [rollback_of_some h, runs_bind]
    constructor
    · rintro ⟨_, discarded, _, rfl, hfirst, hrest⟩
      obtain rfl := runs_send.1 hfirst
      refine ⟨discarded, ?_⟩
      rcases discarded with e | ⟨⟩
      · obtain ⟨⟨⟩, _, rfl, hrest⟩ := hrest
        rw [runs_unwinding.1 hrest]
        rfl
      · rw [runs_unwinding.1 hrest]
        rfl
    · rintro ⟨discarded, rfl⟩
      rcases discarded with e | ⟨⟩
      · refine ⟨[⟨.rollbackHandle handle, .error e⟩], .error e, _, rfl, runs_send.2 rfl, ?_⟩
        exact ⟨(), _, rfl, runs_unwinding.2 rfl⟩
      · refine ⟨[⟨.rollbackHandle handle, .ok ()⟩], .ok (), _, rfl, runs_send.2 rfl, ?_⟩
        exact runs_unwinding.2 rfl

/-! ## A step in a unit of work of its own -/

/-- What is said when a unit of work is opened. -/
def opening (id : Uuid) : List (Exchange K) := [⟨.freshId, id⟩, ⟨.log openedNote, ()⟩]

/-- A step has failed. -/
def failedNote (e : Failure) : LogEvent :=
  if e.isClientError then
    { level := .debug, source := .accounts, message := "Rolling back"
      fields := [("error", .text e.message)] }
  else
    { level := .warn, source := .accounts, message := "Rolling back after failure"
      fields := [("error", .text e.message)] }

/-- How a unit of work is ended by the outcome of its step: what is said, and what is
answered. -/
inductive Settled {α : Type} (u : UnitOfWork K) :
    Except Failure α → List (Exchange K) → Except Failure α → Prop
  /-- All of a commit succeeded. -/
  | committed (a : α) {outcomes : List (Except Failure Unit)}
      (each : outcomes.length = (committing u.handle u.finishers).length)
      (fine : failuresOf outcomes = []) :
      Settled u (.ok a)
        (answered (committing u.handle u.finishers) outcomes ++ [⟨.log committedNote, ()⟩]) (.ok a)
  /-- Some of a commit failed. -/
  | uncommitted (a : α) {outcomes : List (Except Failure Unit)}
      (each : outcomes.length = (committing u.handle u.finishers).length)
      (failed : failuresOf outcomes ≠ []) :
      Settled u (.ok a) (answered (committing u.handle u.finishers) outcomes)
        (.error (.commit (failuresOf outcomes)))
  /-- The step failed. -/
  | rolledBack (e : Failure) (discarded : Except Failure Unit) :
      Settled u (.error e)
        (⟨.log (failedNote e), ()⟩ :: discarding u.handle discarded ++ undoing u.undos) (.error e)

theorem settled_of_runs {α : Type} {u : UnitOfWork K} {outcome r : Except Failure α}
    {said : List (Exchange K)}
    (h : (u.settle outcome : Dialogue K (Except Failure α)).Runs said r) :
    u.Settled outcome said r := by
  cases outcome with
  | ok a =>
    obtain ⟨_, verdict, _, rfl, hcommit, hlast⟩ := runs_bind.1 h
    obtain ⟨outcomes, hlength, rfl, rfl⟩ := runs_commit.1 hcommit
    cases hfailures : failuresOf outcomes with
    | nil =>
      rw [hfailures] at hlast
      obtain ⟨rfl, rfl⟩ := hlast
      rw [List.append_nil]
      exact .committed a hlength hfailures
    | cons e rest =>
      rw [hfailures] at hlast
      obtain ⟨rfl, rfl⟩ := hlast
      have hfailed : failuresOf outcomes ≠ [] := by
        rw [hfailures]
        exact List.cons_ne_nil _ _
      have hlog : committedLog (K := K) (e :: rest) = [] := rfl
      rw [hlog, List.append_nil, List.append_nil, ← hfailures]
      exact .uncommitted a hlength hfailed
  | error e =>
    have hsettle : (u.settle (.error e) : Dialogue K (Except Failure α))
        = send (.log (failedNote e)) >>= fun _ => u.rollback >>= fun _ => pure (.error e) := by
      rw [settle, failedNote]
      cases e.isClientError with
      | false => rfl
      | true => rfl
    rw [hsettle] at h
    obtain ⟨_, ⟨⟩, _, rfl, hlog, hrest⟩ := runs_bind.1 h
    obtain rfl := runs_send.1 hlog
    obtain ⟨_, ⟨⟩, _, rfl, hrollback, rfl, rfl⟩ := runs_bind.1 hrest
    obtain ⟨discarded, rfl⟩ := runs_rollback.1 hrollback
    rw [List.append_nil]
    exact .rolledBack e discarded

/-- A step is made in a new unit of work, which is then ended. -/
theorem runs_perform {α : Type} {step : Step K (Dialogue K) α} {said : List (Exchange K)}
    {r : Except Failure α} (h : (perform step).run.Runs said r) :
    ∃ id made outcome v ending, said = opening id ++ made ++ ending
      ∧ (step.runOn (empty K id)).Runs made (outcome, v) ∧ v.Settled outcome ending r := by
  obtain ⟨_, u, _, rfl, ⟨id, _, rfl, ⟨⟩, _, rfl, rfl, rfl⟩, hstep⟩ := runs_bind.1 h
  obtain ⟨made, ⟨outcome, v⟩, ending, rfl, hmade, hsettle⟩ := runs_bind.1 hstep
  refine ⟨id, made, outcome, v, ending, ?_, hmade, settled_of_runs hsettle⟩
  exact (List.append_assoc _ _ _).symm

/-! ## What the log tells of a run -/

/-- The entries that units of work make in the log, in order. -/
def notes (said : List (Exchange K)) : List LogEvent :=
  said.filterMap fun x => match x.1 with
    | .log event => if event.source = .unitOfWork then some event else none
    | _ => none

theorem notes_append (first rest : List (Exchange K)) :
    notes (first ++ rest) = notes first ++ notes rest :=
  List.filterMap_append

/-- Nothing but its own end is logged in a commit. -/
theorem notes_answered (handle : Option K.Handle) (finishers : List K.Finish)
    (outcomes : List (Except Failure Unit)) :
    notes (answered (committing handle finishers) outcomes) = [] := by
  refine List.filterMap_eq_nil_iff.2 ?_
  intro x hx
  obtain ⟨h, r, rfl⟩ | ⟨a, r, rfl⟩ := mem_answered hx
  · rfl
  · rfl

/-- Of a transaction only that it cannot be discarded is logged. -/
theorem notes_discarding (handle : Option K.Handle) (discarded : Except Failure Unit) :
    notes (discarding handle discarded) = []
      ∨ ∃ e, notes (discarding handle discarded) = [undiscardedNote e] := by
  cases handle with
  | none => exact Or.inl rfl
  | some h =>
    cases discarded with
    | ok _ => exact Or.inl rfl
    | error e => exact Or.inr ⟨e, rfl⟩

theorem notes_undoing (undos : List K.Undo) : notes (undoing undos) = [rolledBackNote] := by
  induction undos with
  | nil => rfl
  | cons a rest ih => exact ih

/-- However a unit of work is ended, no other one is opened then, and it is not dropped. -/
theorem Settled.notes {α : Type} {u : UnitOfWork K} {outcome r : Except Failure α}
    {said : List (Exchange K)} (h : u.Settled outcome said r) :
    openedNote ∉ notes said ∧ droppedNote ∉ notes said := by
  cases h with
  | committed a each fine =>
    have hlast : UnitOfWork.notes (K := K) [⟨.log committedNote, ()⟩] = [committedNote] := rfl
    rw [notes_append, notes_answered, hlast]
    exact ⟨by decide, by decide⟩
  | uncommitted a each failed =>
    rw [notes_answered]
    exact ⟨nofun, nofun⟩
  | rolledBack e discarded =>
    have hfirst : UnitOfWork.notes (K := K) [⟨.log (failedNote e), ()⟩] = [] := by
      rw [failedNote]
      cases e.isClientError with
      | false => rfl
      | true => rfl
    rw [List.cons_append, ← List.singleton_append, notes_append, hfirst, notes_append,
      notes_undoing]
    rcases notes_discarding u.handle discarded with hdiscard | ⟨e', hdiscard⟩
    · rw [hdiscard]
      exact ⟨by decide, by decide⟩
    · rw [hdiscard]
      simp [undiscardedNote, openedNote, droppedNote, rolledBackNote, note]

end UnitOfWork

/-! ## Registering -/

/-- A registration on a unit of work. -/
inductive Registration (K : UnitKinds) where
  | undo (a : K.Undo)
  | finish (a : K.Finish)
  | install (h : K.Handle)

namespace Registration

/-- Makes a registration, which may be refused; then the unit of work stays as it is. -/
def on (u : UnitOfWork K) : Registration K → Except Failure Unit × UnitOfWork K
  | .undo a => (.ok (), u.addUndo a)
  | .finish a => (.ok (), u.addFinish a)
  | .install h => match u.install h with
    | .ok v => (.ok (), v)
    | .error e => (.error e, u)

/-- The unit of work after some registrations. -/
def onAll (u : UnitOfWork K) (registrations : List (Registration K)) : UnitOfWork K :=
  registrations.foldl (fun v r => (r.on v).2) u

/-- The undo action that is registered, if one is. -/
def undo? : Registration K → Option K.Undo
  | .undo a => some a
  | _ => none

/-- The finishing action that is registered, if one is. -/
def finish? : Registration K → Option K.Finish
  | .finish a => some a
  | _ => none

/-- The transaction that is installed, if one is. -/
def install? : Registration K → Option K.Handle
  | .install h => some h
  | _ => none

variable (u : UnitOfWork K) (registrations : List (Registration K))

/-- The first transaction stays. -/
theorem onAll_handle :
    (onAll u registrations).handle = u.handle.or (registrations.findSome? install?) := by
  induction registrations generalizing u with
  | nil => simp [onAll]
  | cons r rest ih =>
    have hfirst : (r.on u).2.handle = u.handle.or r.install? := by
      cases r with
      | undo a => simp [on, UnitOfWork.addUndo, install?]
      | finish a => simp [on, UnitOfWork.addFinish, install?]
      | install h => cases hu : u.handle <;> simp [on, UnitOfWork.install, hu, install?]
    have hrest := ih (r.on u).2
    rw [hfirst, Option.or_assoc] at hrest
    rw [List.findSome?_cons]
    cases hr : r.install? with
    | none => simpa [onAll, hr] using hrest
    | some h => simpa [onAll, hr] using hrest

/-- What each registration adds to a list is in the list in the order of registration. -/
theorem onAll_list {α : Type} (list : UnitOfWork K → List α) (part : Registration K → Option α)
    (adds : ∀ v r, list (r.on v).2 = list v ++ (part r).toList) :
    list (onAll u registrations) = list u ++ registrations.filterMap part := by
  induction registrations generalizing u with
  | nil => simp [onAll]
  | cons r rest ih =>
    have hrest := ih (r.on u).2
    rw [adds, List.append_assoc] at hrest
    refine hrest.trans ?_
    cases hr : part r <;> simp [hr]

theorem onAll_undos :
    (onAll u registrations).undos = u.undos ++ registrations.filterMap undo? := by
  refine onAll_list u registrations UnitOfWork.undos undo? ?_
  intro v r
  cases r with
  | undo a => rfl
  | finish a => simp [on, UnitOfWork.addFinish, undo?]
  | install h => cases hv : v.handle <;> simp [on, UnitOfWork.install, hv, undo?]

theorem onAll_finishers :
    (onAll u registrations).finishers = u.finishers ++ registrations.filterMap finish? := by
  refine onAll_list u registrations UnitOfWork.finishers finish? ?_
  intro v r
  cases r with
  | undo a => simp [on, UnitOfWork.addUndo, finish?]
  | finish a => rfl
  | install h => cases hv : v.handle <;> simp [on, UnitOfWork.install, hv, finish?]

end Registration

/-- A new unit of work with any registrations is ended by exactly what was registered for
that end: its first transaction, then every action once and in order.  A commit goes on
after failures and gives all of them in the order in which they occurred; a rollback goes
on after a transaction that cannot be discarded.  Of the transactions only the first is
installed, and refusing another one changes nothing. -/
theorem UnitOfWork.settles_as_registered (id : Uuid) (registrations : List (Registration K)) :
    let u := Registration.onAll (empty K id) registrations
    let first := registrations.findSome? Registration.install?
    let finishers := registrations.filterMap Registration.finish?
    let undos := registrations.filterMap Registration.undo?
    (∀ said r, (u.commit : Dialogue K (Except Failure Unit)).Runs said r
        ↔ ∃ outcomes, outcomes.length = (committing first finishers).length
          ∧ said = answered (committing first finishers) outcomes
              ++ committedLog (failuresOf outcomes)
          ∧ r = verdict (failuresOf outcomes))
      ∧ (∀ said r, (u.rollback : Dialogue K Unit).Runs said r
        ↔ ∃ discarded, said = discarding first discarded ++ undoing undos)
      ∧ ∀ h, (Registration.install h).on u = match first with
        | none => (.ok (), { u with handle := some h })
        | some _ => (.error secondHandle, u) := by
  intro u first finishers undos
  have hhandle : u.handle = first := by
    rw [Registration.onAll_handle]
    exact Option.none_or
  have hundos : u.undos = undos := by
    rw [Registration.onAll_undos]
    exact List.nil_append _
  have hfinishers : u.finishers = finishers := by
    rw [Registration.onAll_finishers]
    exact List.nil_append _
  refine ⟨?_, ?_, ?_⟩
  · intro said r
    rw [runs_commit, hhandle, hfinishers]
  · intro said r
    rw [runs_rollback, hhandle, hundos]
  · intro h
    simp only [Registration.on, install, hhandle]
    cases first with
    | none => rfl
    | some _ => rfl

end Gatehouse
