/-
  Gatehouse/Proofs/Mailing/Postroom.lean --- one attempt at a cycle, call by call.

  The outbox and the relay are left open: each call lasts for a while and has any outcome,
  which may depend on all that was asked before.  A call is written down when it is
  answered.  What an attempt writes down and reports follows from its parts: from the
  sending of one mail that of a batch, and from one save the saves of a retrier.

  Main definitions: `Counterparts`, `Postroom`, `Sending`, `Dispatcher.Processed`.
  Main statements: `Dispatcher.returns_process`, `Dispatcher.patient_process`,
  `Dispatcher.process_accounts`.
-/
import Gatehouse.Proofs.Mailing.Room
import Gatehouse.Proofs.Retrying
import Gatehouse.Proofs.Waiting

set_option autoImplicit false

namespace Gatehouse

/-! ## Results -/

namespace Virtual

variable {σ α β : Type} {rt : Runtime σ}

/-- Whether each result that a computation has in a state satisfies `Q`, with the state
that is left. -/
def Returns (act : Virtual σ α) (rt : Runtime σ) (Q : α → Runtime σ → Prop) : Prop :=
  ∀ a rt', act.runOn rt = (.ok a, rt') → Q a rt'

namespace Returns

variable {act : Virtual σ α} {Q Q' : α → Runtime σ → Prop}

theorem mono (h : Returns act rt Q) (hQ : ∀ a rt', Q a rt' → Q' a rt') : Returns act rt Q' :=
  fun a rt' hrun => hQ a rt' (h a rt' hrun)

theorem pure {a : α} (h : Q a rt) : Returns (Pure.pure a) rt Q := by
  intro b rt' hrun
  cases hrun
  exact h

theorem bind {f : α → Virtual σ β} {Q : β → Runtime σ → Prop}
    (h : Returns act rt fun a rt₁ => Returns (f a) rt₁ Q) : Returns (act >>= f) rt Q := by
  intro b rt' hrun
  rw [runOn_bind] at hrun
  rcases hact : act.runOn rt with ⟨_ | a, rt₁⟩
  · rw [hact] at hrun
    cases hrun
  · rw [hact] at hrun
    exact h a rt₁ hact b rt' hrun

theorem log {e : LogEvent} {Q : Unit → Runtime σ → Prop} (h : Q () (rt.logged e)) :
    Returns (Gatehouse.log e) rt Q := by
  intro a rt' hrun
  cases hrun
  exact h

theorem pause {ms : Nat} {Q : Unit → Runtime σ → Prop} (h : Q () (rt.later ms)) :
    Returns (Gatehouse.pause ms) rt Q := by
  intro a rt' hrun
  have hwait : (Gatehouse.pause ms : Virtual σ Unit).runOn rt = Runtime.wait ms rt := rfl
  rw [hwait, Runtime.wait] at hrun
  split at hrun
  · cases hrun
    exact h
  · cases hrun

end Returns

end Virtual

/-! ## An outbox and a relay -/

/-- How a call is answered: after some milliseconds, with an outcome.  A request to stop
that is due at the same instant may come first. -/
structure PostTurn (α : Type) where
  lasts : Nat
  yields : Bool
  outcome : Except Failure α

/-- An outbox and a relay of which nothing is known. -/
structure Counterparts where
  State : Type
  fetch : State → (limit : Nat) → PostTurn (List Mail) × State
  send : State → (address subject content : String) → PostTurn Unit × State
  save : State → List Mail → PostTurn Unit × State

/-- Three mails, of which the second is refused, and a first save that fails; after that
nothing is pending. -/
def Counterparts.moody : Counterparts where
  State := Nat
  fetch calls _ :=
    ({ lasts := 2, yields := false
       outcome := .ok (if calls = 0 then
         [{ Mail.new "ann@yas.org" "Welcome" "Hi" with id := some ⟨1⟩ },
           { Mail.new "bob@yas.org" "Welcome" "Hi" with id := some ⟨2⟩ },
           { Mail.new "eve@yas.org" "Reset" "Link" with id := some ⟨3⟩ }] else []) },
      calls + 1)
  send calls _ _ _ :=
    ({ lasts := 5, yields := true
       outcome := if calls = 2 then .error (.internal "busy") else .ok () }, calls + 1)
  save calls _ :=
    ({ lasts := 1, yields := false
       outcome := if calls = 4 then .error (.internal "locked") else .ok () }, calls + 1)

/-- A call that was answered. -/
inductive PostEntry where
  | fetched (limit : Nat) (outcome : Except Failure (List Mail))
  | sent (address subject content : String) (outcome : Except Failure Unit)
  | saved (batch : List Mail) (outcome : Except Failure Unit)
  deriving Repr

/-- The counterparts, with what they have answered so far. -/
structure Postroom (C : Counterparts) where
  state : C.State
  entries : List PostEntry

namespace Postroom

variable {C : Counterparts} {α : Type}

/-- A run with the counterparts. -/
abbrev Run (C : Counterparts) := Virtual (Postroom C)

/-- Asks for the next turn, which also settles what comes first if the program is to stop
at the instant of the answer. -/
def ask (next : C.State → PostTurn α × C.State) : Run C (PostTurn α) :=
  modifyGet fun rt =>
    let (turn, state) := next rt.world.state
    (turn, { rt with
      stop := rt.stop.map fun s => { s with winsTies := turn.yields }
      world := { rt.world with state } })

/-- Nothing has been answered yet. -/
def opened : Postroom .moody := { state := (0 : Nat), entries := [] }

/-- Writes an answer down. -/
def write (entry : PostEntry) : Run C Unit :=
  Virtual.access fun w => ((), { w with entries := w.entries ++ [entry] })

/-- A call, from the question to the answer. -/
def call (next : C.State → PostTurn α × C.State) (entry : Except Failure α → PostEntry) :
    Run C (Except Failure α) := do
  let turn ← ask next
  pause turn.lasts
  write (entry turn.outcome)
  pure turn.outcome

instance : Outbox (Run C) where
  findPending limit := call (fun s => C.fetch s limit) (.fetched limit)
  saveBatch batch := call (fun s => C.save s batch) (.saved batch)

instance : MailTransport (Run C) where
  send address subject content :=
    call (fun s => C.send s address subject content) (.sent address subject content)

/-! ## What is written down -/

/-- Whether a state follows another by these answers and reports. -/
structure Wrote (rt rt' : Runtime (Postroom C)) (entries : List PostEntry)
    (reports : List Observation) : Prop where
  entries : rt'.world.entries = rt.world.entries ++ entries
  observer : rt'.observer = rt.observer
  reports : rt.observer = .record → rt'.observed = rt.observed ++ reports

variable {rt rt₁ rt₂ : Runtime (Postroom C)} {es es' : List PostEntry} {os os' : List Observation}

theorem Wrote.refl (rt : Runtime (Postroom C)) : Wrote rt rt [] [] :=
  ⟨(List.append_nil _).symm, rfl, fun _ => (List.append_nil _).symm⟩

theorem Wrote.trans (h : Wrote rt rt₁ es os) (h₁ : Wrote rt₁ rt₂ es' os') :
    Wrote rt rt₂ (es ++ es') (os ++ os') := by
  refine ⟨?_, h₁.observer.trans h.observer, fun records => ?_⟩
  · rw [h₁.entries, h.entries, List.append_assoc]
  · rw [h₁.reports (h.observer.trans records), h.reports records, List.append_assoc]

theorem Wrote.later (h : Wrote rt rt₁ es os) (ms : Nat) : Wrote rt (rt₁.later ms) es os :=
  ⟨h.entries, h.observer, h.reports⟩

theorem Wrote.logged (h : Wrote rt rt₁ es os) (e : LogEvent) : Wrote rt (rt₁.logged e) es os :=
  ⟨h.entries, h.observer, h.reports⟩

theorem returns_observe (o : Observation) :
    Virtual.Returns (observe o : Run C Unit) rt fun _ rt' => Wrote rt rt' [] [o] := by
  intro u rt' hrun
  cases hobserver : rt.observer with
  | record =>
    rw [Virtual.runOn_observe rt o hobserver] at hrun
    cases hrun
    exact ⟨(List.append_nil _).symm, rfl, fun _ => rfl⟩
  | trace =>
    cases rt
    cases hobserver
    cases hrun
    exact ⟨(List.append_nil _).symm, rfl, nofun⟩

theorem returns_call (next : C.State → PostTurn α × C.State)
    (entry : Except Failure α → PostEntry) :
    Virtual.Returns (call next entry) rt fun outcome rt' => Wrote rt rt' [entry outcome] [] := by
  refine .bind fun turn rt₁ hask => .bind (.pause (.bind fun _ rt₂ hwrite => .pure ?_))
  cases hask
  cases hwrite
  exact ⟨rfl, rfl, fun _ => (List.append_nil _).symm⟩

theorem patient_call (next : C.State → PostTurn α × C.State)
    (entry : Except Failure α → PostEntry) : Virtual.Patient (call next entry) := by
  have hask : Virtual.Patient (ask next) := .of_instant fun rt => by
    refine ⟨_, _, rfl, rfl, rfl, ?_, rfl⟩
    rw [Runtime.stopInstant?, Runtime.stopInstant?, Option.map_map]
    rfl
  have hwrite : ∀ e, Virtual.Patient (write e : Run C Unit) := fun e =>
    .of_instant fun rt => ⟨_, _, rfl, rfl, rfl, rfl, rfl⟩
  exact .bind hask fun turn => .bind (.pause _) fun _ => .bind (hwrite _) fun _ => .pure _

end Postroom

/-! ## Trying again -/

namespace Retrier

open Postroom (Wrote)

variable {C : Counterparts} {α : Type} (r : Retrier)

/-- Whether a retrier that has `left` retries ends in this way, when `P` tells how single
attempts end. -/
inductive Tried (P : Except Failure α → List PostEntry → List Observation → Prop) :
    (left number : Nat) → Except Failure α → List PostEntry → List Observation → Prop where
  | succeeded {left number : Nat} {a : α} {es : List PostEntry} {os : List Observation}
      (attempt : P (.ok a) es os) : Tried P left number (.ok a) es os
  | spent {number : Nat} {e : Failure} {es : List PostEntry} {os : List Observation}
      (attempt : P (.error e) es os) :
      Tried P 0 number (.error (.retriesExhausted number e)) es (os ++ [r.warning e number])
  | again {left number : Nat} {e : Failure} {result : Except Failure α}
      {es es' : List PostEntry} {os os' : List Observation} (attempt : P (.error e) es os)
      (rest : Tried P left (number + 1) result es' os') :
      Tried P (left + 1) number result (es ++ es') (os ++ r.warning e number :: os')

theorem returns_attempts {P : Except Failure α → List PostEntry → List Observation → Prop}
    {op : Postroom.Run C (Except Failure α)}
    (attempt : ∀ rt, Virtual.Returns op rt fun result rt' =>
      ∃ es os, Wrote rt rt' es os ∧ P result es os)
    (left number : Nat) (rt : Runtime (Postroom C)) :
    Virtual.Returns (r.attempts op left number) rt fun result rt' =>
      ∃ es os, Wrote rt rt' es os ∧ r.Tried P left number result es os := by
  induction left generalizing number rt with
  | zero =>
    rw [attempts]
    refine .bind ((attempt rt).mono ?_)
    rintro (e | a) rt₁ ⟨es, os, hwrote, hend⟩
    · refine .bind ((Postroom.returns_observe _).mono fun _ rt₂ hobserved => .pure ?_)
      have hboth := hwrote.trans hobserved
      rw [List.append_nil] at hboth
      exact ⟨es, _, hboth, .spent hend⟩
    · exact .pure ⟨es, os, hwrote, .succeeded hend⟩
  | succ left ih =>
    rw [attempts]
    refine .bind ((attempt rt).mono ?_)
    rintro (e | a) rt₁ ⟨es, os, hwrote, hend⟩
    · refine .bind ((Postroom.returns_observe _).mono fun _ rt₂ hobserved => ?_)
      refine .bind (.pause ((ih (number + 1) (rt₂.later r.delay)).mono ?_))
      rintro result rt₃ ⟨es', os', hrest, htried⟩
      have hall := ((hwrote.trans hobserved).later r.delay).trans hrest
      simp only [List.append_nil, List.append_assoc, List.singleton_append] at hall
      exact ⟨es ++ es', _, hall, .again hend htried⟩
    · exact .pure ⟨es, os, hwrote, .succeeded hend⟩

/-- A retrier that succeeds ends with the attempt that does. -/
theorem Tried.last {P : Except Failure α → List PostEntry → List Observation → Prop}
    {left number : Nat} {a : α} {es : List PostEntry} {os : List Observation}
    (h : r.Tried P left number (.ok a) es os) :
    ∃ before es' os', es = before ++ es' ∧ P (.ok a) es' os' := by
  generalize hresult : Except.ok a = result at h
  induction h with
  | succeeded attempt =>
    cases hresult
    exact ⟨[], _, _, rfl, attempt⟩
  | spent attempt => cases hresult
  | again attempt rest ih =>
    obtain ⟨before, es', os', rfl, hlast⟩ := ih hresult
    exact ⟨_ ++ before, es', os', (List.append_assoc ..).symm, hlast⟩

/-- A retrier that fails has made all its attempts. -/
theorem Tried.exhausted {P : Except Failure α → List PostEntry → List Observation → Prop}
    {left number : Nat} {e : Failure} {es : List PostEntry} {os : List Observation}
    (h : r.Tried P left number (.error e) es os) :
    ∃ last, e = .retriesExhausted (number + left) last := by
  generalize hresult : Except.error e = result at h
  induction h with
  | succeeded attempt => cases hresult
  | spent attempt =>
    cases hresult
    exact ⟨_, rfl⟩
  | again attempt rest ih =>
    obtain ⟨last, rfl⟩ := ih hresult
    exact ⟨last, by rw [Nat.add_assoc, Nat.add_comm 1]⟩

/-- The warnings about failures that follow each other, the first of them with the given
number. -/
def warningsFrom : (number : Nat) → List Failure → List Observation
  | _, [] => []
  | number, e :: es => r.warning e number :: warningsFrom (number + 1) es

end Retrier

/-! ## Sending a batch -/

/-- A mail of a batch and the answer of the relay. -/
structure Sending where
  mail : Mail
  answer : Except Failure Unit

namespace Sending

def isAccepted (s : Sending) : Bool := s.answer.isOk

/-- The mail as it is to be saved. -/
def kept (s : Sending) : Mail := s.mail.given s.isAccepted

def entry (s : Sending) : PostEntry := .sent s.mail.address s.mail.subject s.mail.content s.answer

/-- The report of a mail that was refused. -/
def report? (s : Sending) : Option Observation :=
  match s.answer with
  | .ok () => none
  | .error failure =>
      some
        { isError := true, event := "mail error", failure
          fields := [("mail_id", s.mail.logId)] }

end Sending

namespace Dispatcher

open Postroom (Wrote Run)

variable {C : Counterparts}

theorem returns_deliver (mails : List Mail) (rt : Runtime (Postroom C)) :
    Virtual.Returns (deliver mails : Run C (List Mail × Nat)) rt fun p rt' =>
      ∃ sendings : List Sending, sendings.map Sending.mail = mails
        ∧ p.1 = sendings.map Sending.kept ∧ p.2 = sendings.countP Sending.isAccepted
        ∧ Wrote rt rt' (sendings.map Sending.entry) (sendings.filterMap Sending.report?) := by
  induction mails generalizing rt with
  | nil => exact .pure ⟨[], rfl, rfl, rfl, .refl rt⟩
  | cons mail mails ih =>
    rw [deliver]
    refine .bind ((Postroom.returns_call _ _).mono ?_)
    rintro (e | ⟨⟩) rt₁ hsent
    · refine .bind ((Postroom.returns_observe _).mono fun _ rt₂ hobserved => ?_)
      refine .bind ((ih rt₂).mono ?_)
      rintro ⟨others, count⟩ rt₃ ⟨sendings, hmails, rfl, rfl, hrest⟩
      refine .pure ⟨⟨mail, .error e⟩ :: sendings, by rw [List.map_cons, hmails], rfl, ?_, ?_⟩
      · rw [List.countP_cons_of_neg (by exact Bool.false_ne_true)]
      · exact (hsent.trans hobserved).trans hrest
    · refine .bind ((ih rt₁).mono ?_)
      rintro ⟨others, count⟩ rt₂ ⟨sendings, hmails, rfl, rfl, hrest⟩
      refine .pure ⟨⟨mail, .ok ()⟩ :: sendings, by rw [List.map_cons, hmails], rfl, ?_, ?_⟩
      · rw [List.countP_cons_of_pos rfl]
      · exact hsent.trans hrest

/-! ## Saving a batch -/

/-- The saves of a batch that fail. -/
def unsaved (sendings : List Sending) (failures : List Failure) : List PostEntry :=
  failures.map fun e => .saved (sendings.map Sending.kept) (.error e)

/-- What the saves of a batch write down and report: they end with the first that
succeeds, or with the last that may be made. -/
inductive Saves (r : Retrier) (sendings : List Sending) : (left number : Nat) →
    Except Failure Unit → List PostEntry → List Observation → Prop where
  | done {left number : Nat} (failures : List Failure) (few : failures.length ≤ left) :
      Saves r sendings left number (.ok ())
        (unsaved sendings failures ++ [.saved (sendings.map Sending.kept) (.ok ())])
        (r.warningsFrom number failures)
  | spent {left number : Nat} (failures : List Failure) (last : Failure)
      (all : failures.length = left) :
      Saves r sendings left number (.error (.retriesExhausted (number + left) last))
        (unsaved sendings (failures ++ [last])) (r.warningsFrom number (failures ++ [last]))

/-- What one save of a batch writes down and reports. -/
def IsSave (sendings : List Sending) (result : Except Failure Unit) (es : List PostEntry)
    (os : List Observation) : Prop :=
  es = [.saved (sendings.map Sending.kept) result] ∧ os = []

theorem saves_of_tried {r : Retrier} {sendings : List Sending} {left number : Nat}
    {result : Except Failure Unit} {es : List PostEntry} {os : List Observation}
    (h : r.Tried (IsSave sendings) left number result es os) :
    Saves r sendings left number result es os := by
  induction h with
  | succeeded attempt =>
    obtain ⟨rfl, rfl⟩ := attempt
    exact .done [] (Nat.zero_le _)
  | @spent number e es os attempt =>
    obtain ⟨rfl, rfl⟩ := attempt
    exact .spent [] e rfl
  | @again left number e result es es' os os' attempt rest ih =>
    obtain ⟨rfl, rfl⟩ := attempt
    cases ih with
    | done failures few => exact .done (e :: failures) (Nat.succ_le_succ few)
    | spent failures last all =>
      rw [Nat.add_assoc, Nat.add_comm 1 left]
      exact .spent (e :: failures) last (congrArg Nat.succ all)

theorem returns_save (r : Retrier) (sendings : List Sending) (rt : Runtime (Postroom C)) :
    Virtual.Returns (r.process (Outbox.saveBatch (sendings.map Sending.kept)) :
        Run C (Except Failure Unit)) rt fun result rt' =>
      ∃ es os, Wrote rt rt' es os ∧ Saves r sendings r.maxRetries 1 result es os := by
  have hsave : ∀ rt, Virtual.Returns (Outbox.saveBatch (sendings.map Sending.kept) :
      Run C (Except Failure Unit)) rt fun result rt' =>
        ∃ es os, Wrote rt rt' es os ∧ IsSave sendings result es os := fun rt =>
    (Postroom.returns_call _ _).mono fun result rt' h => ⟨_, _, h, rfl, rfl⟩
  refine (r.returns_attempts hsave r.maxRetries 1 rt).mono ?_
  rintro result rt' ⟨es, os, hwrote, htried⟩
  exact ⟨es, os, hwrote, saves_of_tried htried⟩

/-! ## Attempts -/

/-- A batch that was fetched, and the mails that were handed over. -/
def handed (d : Dispatcher) (sendings : List Sending) : List PostEntry :=
  .fetched d.batchSize (.ok (sendings.map Sending.mail)) :: sendings.map Sending.entry

/-- What an attempt at a cycle writes down and reports, by how it ends.  Every mail of the
batch is handed over once and in its place, every refusal is reported once, and the batch
is saved as a whole, with the accepted mails marked, until a save succeeds or none is
left. -/
inductive Processed (d : Dispatcher) :
    Except Failure CycleOutcome → List PostEntry → List Observation → Prop where
  | unfetched (e : Failure) : Processed d (.error e) [.fetched d.batchSize (.error e)] []
  | drained : Processed d (.ok .drained) [.fetched d.batchSize (.ok [])] []
  /-- No mail is accepted, and nothing is saved. -/
  | refused {sendings : List Sending} (mails : sendings ≠ [])
      (refused : ∀ s ∈ sendings, s.isAccepted = false) :
      Processed d (.error (.mailing (.allFailed sendings.length))) (d.handed sendings)
        (sendings.filterMap Sending.report?)
  | saved {sendings : List Sending} {failures : List Failure} {delivered failed : Nat}
      (accepted : ∃ s ∈ sendings, s.isAccepted = true)
      (few : failures.length ≤ d.saveRetrier.maxRetries)
      (counted : delivered = sendings.countP Sending.isAccepted)
      (others : delivered + failed = sendings.length) :
      Processed d (.ok (.delivered delivered failed))
        (d.handed sendings
          ++ (unsaved sendings failures ++ [.saved (sendings.map Sending.kept) (.ok ())]))
        (sendings.filterMap Sending.report? ++ d.saveRetrier.warningsFrom 1 failures)
  | unsaved {sendings : List Sending} {failures : List Failure} {last : Failure}
      (accepted : ∃ s ∈ sendings, s.isAccepted = true)
      (spent : failures.length = d.saveRetrier.maxRetries) :
      Processed d (.error (.retriesExhausted (d.saveRetrier.maxRetries + 1) last))
        (d.handed sendings ++ unsaved sendings (failures ++ [last]))
        (sendings.filterMap Sending.report? ++ d.saveRetrier.warningsFrom 1 (failures ++ [last]))

variable (d : Dispatcher)

theorem returns_process (rt : Runtime (Postroom C)) :
    Virtual.Returns (d.process : Run C (Except Failure CycleOutcome)) rt fun result rt' =>
      ∃ es os, Wrote rt rt' es os ∧ d.Processed result es os := by
  unfold process
  refine .bind ((Postroom.returns_call _ _).mono ?_)
  rintro (e | _ | ⟨mail, mails⟩) rt₁ hfetched
  · exact .pure ⟨_, _, hfetched, .unfetched e⟩
  · exact .pure ⟨_, _, hfetched, .drained⟩
  refine .bind ((returns_deliver (mail :: mails) rt₁).mono ?_)
  rintro ⟨batch, count⟩ rt₂ ⟨sendings, hmails, rfl, rfl, hsent⟩
  have hlen : (mail :: mails).length = sendings.length := by rw [← hmails, List.length_map]
  have hnonempty : sendings ≠ [] := by
    rintro rfl
    cases hmails
  have hhanded := hfetched.trans hsent
  rw [← hmails] at hhanded
  dsimp only
  by_cases hcount : sendings.countP Sending.isAccepted = 0
  · rw [if_pos hcount, hlen]
    refine .pure ⟨_, _, hhanded, .refused hnonempty fun s hs => ?_⟩
    exact Bool.eq_false_iff.2 (List.countP_eq_zero.1 hcount s hs)
  rw [if_neg hcount]
  have haccepted : ∃ s ∈ sendings, s.isAccepted = true :=
    List.countP_pos_iff.1 (Nat.pos_of_ne_zero hcount)
  refine .bind ((returns_save d.saveRetrier sendings rt₂).mono ?_)
  rintro result rt₃ ⟨es, os, hsaved, hsaves⟩
  have hall := hhanded.trans hsaved
  cases hsaves with
  | done failures few =>
    refine .bind (.log (.pure ⟨_, _, hall.logged _, .saved haccepted few rfl ?_⟩))
    rw [hlen]
    exact Nat.add_sub_cancel' List.countP_le_length
  | spent failures last all =>
    rw [Nat.add_comm]
    exact .pure ⟨_, _, hall, .unsaved haccepted all⟩

theorem patient_deliver (mails : List Mail) :
    Virtual.Patient (deliver mails : Run C (List Mail × Nat)) := by
  induction mails with
  | nil => exact .pure _
  | cons mail mails ih =>
    rw [deliver]
    refine .bind (Postroom.patient_call _ _) fun answer => ?_
    cases answer with
    | ok _ => exact .bind ih fun _ => .pure _
    | error e => exact .bind (.observe _) fun _ => .bind ih fun _ => .pure _

theorem patient_process :
    Virtual.Patient (d.process : Run C (Except Failure CycleOutcome)) := by
  unfold process
  refine .bind (Postroom.patient_call _ _) fun fetched => ?_
  rcases fetched with e | _ | ⟨mail, mails⟩
  · exact .pure _
  · exact .pure _
  refine .bind (patient_deliver _) fun p => ?_
  dsimp only
  split
  · exact .pure _
  refine .bind (d.saveRetrier.patient_process (Postroom.patient_call _ _)) fun saved => ?_
  cases saved with
  | ok _ => exact .bind (.log _) fun _ => .pure _
  | error e => exact .pure _

/-- An attempt that nothing cuts short comes to a result, whatever the outbox and the
relay answer, and what was answered and reported in it is what this result asks for. -/
theorem process_accounts (rt : Runtime (Postroom C)) (free : rt.deadline = none)
    (unasked : rt.stop = none) (records : rt.observer = .record) :
    ∃ result rt' entries reports,
      Virtual.runOn (d.process : Run C (Except Failure CycleOutcome)) rt = (.ok result, rt')
        ∧ rt'.world.entries = rt.world.entries ++ entries
        ∧ rt'.observed = rt.observed ++ reports
        ∧ d.Processed result entries reports := by
  obtain ⟨result, rt', hrun, -, ⟨a, rfl⟩ | ⟨-, i, hstop, -⟩⟩ :=
    (d.patient_process (C := C)).cases_of_free free
  · obtain ⟨entries, reports, hwrote, hprocessed⟩ := d.returns_process rt a rt' hrun
    exact ⟨a, rt', entries, reports, hrun, hwrote.entries, hwrote.reports records, hprocessed⟩
  · rw [Runtime.stopInstant?, unasked] at hstop
    cases hstop

/-- Three mails, of which the second is refused, and a first save that fails. -/
theorem process_accounts_moody :
    ∃ rt', Virtual.runOn ((ofConfig .default).process : Run .moody (Except Failure CycleOutcome))
          (Runtime.new .counting Postroom.opened) = (.ok (.ok (.delivered 2 1)), rt')
        ∧ rt'.elapsed = 519 ∧ rt'.world.entries.length = 6
        ∧ rt'.observed.map Observation.event = ["mail error", "process failed in retrier"]
        ∧ (ofConfig .default).Processed (.ok (.delivered 2 1)) rt'.world.entries rt'.observed := by
  obtain ⟨result, rt', entries, reports, hrun, hentries, hreports, hprocessed⟩ :=
    process_accounts (ofConfig .default) (Runtime.new .counting Postroom.opened) rfl rfl rfl
  have hends : (Virtual.runOn
        ((ofConfig .default).process : Run .moody (Except Failure CycleOutcome))
        (Runtime.new .counting Postroom.opened)).map
        (fun result => result.toOption.bind Except.toOption)
        (fun after => (after.elapsed, after.world.entries.length,
          after.observed.map Observation.event))
      = (some (.delivered 2 1), 519, 6, ["mail error", "process failed in retrier"]) := by
    decide +kernel
  rw [hrun] at hends
  obtain ⟨hresult, hrest⟩ := Prod.mk.inj hends
  obtain ⟨helapsed, hrest⟩ := Prod.mk.inj hrest
  obtain ⟨hlength, hobserved⟩ := Prod.mk.inj hrest
  obtain rfl := Except.ok.inj (ok_of_toOption hresult)
  obtain rfl : rt'.world.entries = entries := hentries
  obtain rfl : rt'.observed = reports := hreports
  exact ⟨rt', hrun, helapsed, hlength, hobserved, hprocessed⟩

end Dispatcher

end Gatehouse
