/-
  Gatehouse/Proofs/Mailing/Room.lean --- an outbox, a relay, and what passes between them.

  The outbox is the one that is kept in memory.  The relay is left open: it may answer
  each mail in another way, and any call may last for a while before it takes effect and
  after, so that work may be given up between any two effects.  Every fetch opens an
  attempt; what is handed to the relay and what is to be saved are noted in it when they
  happen.

  Main definitions: `Surroundings`, `Attempt`, `MailRoom`, `MailRoom.UnderWay`.
  Main statements: `MailRoom.ends_findPending`, `MailRoom.ends_send`,
  `MailRoom.ends_saveBatch`.
-/
import Gatehouse.Proofs.Ending
import Gatehouse.Proofs.Mailing.Marks
import Gatehouse.Store.Collaborators

set_option autoImplicit false

namespace Gatehouse

/-! ## Around the outbox -/

/-- How a mail was taken: the milliseconds before the relay decides, why it refuses the
mail, if it does, and the milliseconds before the call returns. -/
structure Reception where
  before : Nat
  refusal : Option Failure
  after : Nat
  deriving Repr, Inhabited

/-- A relay and the pace of the outbox, of which nothing is known. -/
structure Surroundings where
  State : Type
  /-- What becomes of a mail with an address, a subject and a content. -/
  receive : State → String → String → String → Reception × State
  /-- How long a call of the outbox lasts, before it takes effect and after. -/
  dwell : State → (Nat × Nat) × State

/-- A relay that refuses every other mail, and calls that take some time. -/
def Surroundings.fickle : Surroundings where
  State := Nat
  receive n _ _ _ :=
    ({ before := 5, refusal := if n % 2 = 0 then some (.internal "busy") else none, after := 1 },
      n + 1)
  dwell n := ((1, 2), n)

/-- What was handed to the relay, and whether it was accepted. -/
structure Handing where
  address : String
  subject : String
  content : String
  accepted : Bool
  deriving DecidableEq, Repr, Inhabited

namespace Mail

/-- A mail handed to the relay. -/
def handing (m : Mail) (accepted : Bool) : Handing :=
  { address := m.address, subject := m.subject, content := m.content, accepted }

/-- The mail as it goes back to the outbox: marked when it was accepted. -/
def given (m : Mail) (accepted : Bool) : Mail := if accepted then m.markMailed else m

end Mail

/-! ## Attempts -/

/-- What was seen of an attempt at a cycle. -/
structure Attempt where
  /-- The mails that were fetched. -/
  batch : List Mail
  /-- What was handed to the relay, in order. -/
  handings : List Handing
  /-- Whether each of the saves took effect, in order. -/
  saves : List Bool
  deriving DecidableEq, Repr, Inhabited

namespace Attempt

/-- An attempt that has fetched its mails. -/
def opening (batch : List Mail) : Attempt := { batch, handings := [], saves := [] }

/-- The attempt after more was handed to the relay. -/
def hand (a : Attempt) (handings : List Handing) : Attempt :=
  { a with handings := a.handings ++ handings }

/-- The attempt after one more save. -/
def save (a : Attempt) (done : Bool) : Attempt := { a with saves := a.saves ++ [done] }

/-- The mails of the batch that were handed over under this verdict, each with its own
texts and in its own place. -/
def judged (a : Attempt) (verdict : Bool) : List Mail :=
  ((a.batch.zip a.handings).filter fun p => p.2 = p.1.handing verdict).map Prod.fst

/-- The mails that the relay accepted. -/
def accepted (a : Attempt) : List Mail := a.judged true

/-- The mails that the relay refused. -/
def refused (a : Attempt) : List Mail := a.judged false

/-- Whether the batch was saved. -/
def isSaved (a : Attempt) : Bool := a.saves.contains true

/-- The mails whose acceptance was saved. -/
def confirmed (attempts : List Attempt) : List Mail :=
  (attempts.filter isSaved).flatMap accepted

end Attempt

/-- An outbox in memory with its surroundings. -/
structure MailRoom (S : Surroundings) where
  memory : Memory
  around : S.State
  /-- The attempts so far, the last first. -/
  attempts : List Attempt

namespace MailRoom

variable {S : Surroundings}

/-! ## Calls -/

/-- Notes what was fetched, which opens an attempt. -/
def openAttempt (w : MailRoom S) : Except Failure (List Mail) → Unit × MailRoom S
  | .ok batch => ((), { w with attempts := .opening batch :: w.attempts })
  | .error _ => ((), w)

/-- Notes more of the last attempt. -/
def note (w : MailRoom S) (more : Attempt → Attempt) : Unit × MailRoom S :=
  ((), { w with attempts := w.attempts.modifyHead more })

/-- Asks the relay to take a mail. -/
def offer (w : MailRoom S) (address subject content : String) : Reception × MailRoom S :=
  let (reception, around) := S.receive w.around address subject content
  (reception, { w with around })

/-- Asks how long the next call of the outbox lasts. -/
def pace (w : MailRoom S) : (Nat × Nat) × MailRoom S :=
  let (time, around) := S.dwell w.around
  (time, { w with around })

/-- A run in the mail room. -/
abbrev Run (S : Surroundings) := Virtual (MailRoom S)

/-- A call of the outbox, which lasts for a while. -/
def lasting {α : Type} (act : Run S α) : Run S α := do
  let (before, after) ← Virtual.access pace
  pause before
  let a ← act
  pause after
  pure a

instance : MonadStateOf Memory (Run S) where
  get := Virtual.access fun w => (w.memory, w)
  set s := Virtual.access fun w => ((), { w with memory := s })
  modifyGet act := Virtual.access fun w =>
    let (value, memory) := act w.memory
    (value, { w with memory })

/-- The outbox that is kept in memory. -/
abbrev kept : Outbox (Run S) := inferInstance

/-- The calls of the kept outbox last for a while, and are noted as they take effect. -/
instance : Outbox (Run S) where
  findPending limit := lasting do
    let result ← kept.findPending limit
    Virtual.access fun w => w.openAttempt result
    pure result
  saveBatch batch := lasting do
    let result ← kept.saveBatch batch
    Virtual.access fun w => w.note (·.save result.isOk)
    pure result

instance : MailTransport (Run S) where
  send address subject content := do
    let reception ← Virtual.access fun w => w.offer address subject content
    pause reception.before
    let handing := { address, subject, content, accepted := reception.refusal.isNone }
    Virtual.access fun w => w.note (·.hand [handing])
    pause reception.after
    match reception.refusal with
    | none => pure (.ok ())
    | some e => pure (.error e)

/-- Two pending mails and one that is delivered, before a fickle relay; the first save of
a batch fails. -/
def small : MailRoom .fickle :=
  { memory := { Memory.empty with
      mails :=
        [{ id := some ⟨1⟩, address := "ann@yas.org", subject := "Welcome", content := "Hi",
           mailed := false },
         { id := some ⟨2⟩, address := "bob@yas.org", subject := "Welcome", content := "Hi",
           mailed := true },
         { id := some ⟨3⟩, address := "eve@yas.org", subject := "Reset", content := "Link",
           mailed := false }]
      outages := { Outages.none with batchSaves := [true] } }
    around := (0 : Nat)
    attempts := [] }

end MailRoom

/-! ## What an attempt tells -/

namespace Mail

theorem id_given (m : Mail) (accepted : Bool) : (m.given accepted).id = m.id := by
  cases accepted
  · rfl
  · rfl

theorem mem_zipWith_given {mails : List Mail} {verdicts : List Bool} {b : Mail} :
    b ∈ List.zipWith given mails verdicts
      ↔ ∃ m v, (m, v) ∈ mails.zip verdicts ∧ m.given v = b := by
  have hzip : (mails.zip verdicts).map (fun p => p.1.given p.2)
      = List.zipWith given mails verdicts := List.map_zip_eq_zipWith
  rw [← hzip, List.mem_map, Prod.exists]

theorem handing_inj {m : Mail} {v v' : Bool} : m.handing v = m.handing v' ↔ v = v' := by
  constructor
  · intro h
    exact congrArg Handing.accepted h
  · intro h
    rw [h]

/-- Handings with the texts of the mails in their places tell no more than verdicts. -/
theorem filter_handing (mails : List Mail) (verdicts : List Bool) (v : Bool) :
    ((mails.zip (List.zipWith handing mails verdicts)).filter
        fun p => p.2 = p.1.handing v).map Prod.fst
      = ((mails.zip verdicts).filter fun p => p.2 = v).map Prod.fst := by
  induction mails generalizing verdicts with
  | nil => rfl
  | cons m mails ih =>
    cases verdicts with
    | nil => rfl
    | cons v' verdicts =>
      simp only [List.zipWith_cons_cons, List.zip_cons_cons, List.filter_cons, handing_inj]
      split
      · rw [List.map_cons, List.map_cons, ih]
      · exact ih verdicts

theorem length_filter_zip {mails : List Mail} {verdicts : List Bool}
    (enough : verdicts.length ≤ mails.length) (v : Bool) :
    ((mails.zip verdicts).filter fun p => p.2 = v).length = verdicts.count v := by
  have hverdicts : (mails.zip verdicts).map Prod.snd = verdicts := List.map_snd_zip enough
  rw [← List.countP_eq_length_filter, List.count_eq_countP, ← hverdicts, List.countP_map, hverdicts]
  exact List.countP_congr fun p _ => by simp

theorem map_filter_zip_sublist {β : Type} (keep : Mail × β → Bool) (mails : List Mail)
    (others : List β) : (((mails.zip others).filter keep).map Prod.fst).Sublist mails := by
  induction mails generalizing others with
  | nil => exact List.nil_sublist _
  | cons m mails ih =>
    cases others with
    | nil => exact List.nil_sublist _
    | cons b others =>
      rw [List.zip_cons_cons, List.filter_cons]
      split
      · exact (ih others).cons_cons m
      · exact (ih others).cons m

end Mail

namespace Attempt

variable {a : Attempt} {verdicts : List Bool}

/-- Whether the first mails of the batch were handed over, each with its own texts, under
these verdicts. -/
structure Gave (a : Attempt) (verdicts : List Bool) : Prop where
  length_le : verdicts.length ≤ a.batch.length
  handings : a.handings = List.zipWith Mail.handing a.batch verdicts

theorem judged_eq (h : a.Gave verdicts) (v : Bool) :
    a.judged v = ((a.batch.zip verdicts).filter fun p => p.2 = v).map Prod.fst := by
  rw [judged, h.handings]
  exact Mail.filter_handing a.batch verdicts v

theorem length_judged (h : a.Gave verdicts) (v : Bool) :
    (a.judged v).length = verdicts.count v := by
  rw [judged_eq h, List.length_map, Mail.length_filter_zip h.length_le]

theorem judged_sublist (a : Attempt) (v : Bool) : (a.judged v).Sublist a.batch :=
  Mail.map_filter_zip_sublist _ _ _

theorem confirmed_of_unsaved (h : a.isSaved = false) : confirmed [a] = [] := by
  rw [confirmed, List.filter_cons_of_neg (by simp [h]), List.filter_nil, List.flatMap_nil]

theorem confirmed_of_saved (h : a.isSaved = true) : confirmed [a] = a.accepted := by
  rw [confirmed, List.filter_cons_of_pos h, List.filter_nil, List.flatMap_cons, List.flatMap_nil,
    List.append_nil]

theorem isSaved_save (a : Attempt) (done : Bool) : (a.save done).isSaved = (a.isSaved || done) := by
  cases done <;> simp [isSaved, save]

theorem hand_nil (a : Attempt) : a.hand [] = a := by rw [hand, List.append_nil]

theorem hand_hand (a : Attempt) (hs hs' : List Handing) :
    (a.hand hs).hand hs' = a.hand (hs ++ hs') := by
  simp only [hand, List.append_assoc]

/-- One mail is handed over, and then the others. -/
theorem hand_cons (a : Attempt) (m : Mail) (mails : List Mail) (v : Bool) (verdicts : List Bool) :
    (a.hand [m.handing v]).hand (List.zipWith Mail.handing mails verdicts)
      = a.hand (List.zipWith Mail.handing (m :: mails) (v :: verdicts)) := by
  rw [hand_hand, List.zipWith_cons_cons, List.singleton_append]

end Attempt

/-! ## What calls do -/

namespace MailRoom

variable {S : Surroundings} {w₀ w w' : MailRoom S} {a : Attempt} {verdicts : List Bool}

/-- Whether an outbox can be drained: no batch is planned, and its mails have ids, no two
of them the same. -/
structure Ready (w : MailRoom S) : Prop where
  unplanned : w.memory.batches = []
  stored : ∀ m ∈ w.memory.mails, m.id ≠ none
  distinct : (w.memory.mails.map Mail.id).Nodup

theorem ready_small : small.Ready := ⟨rfl, by decide, by decide⟩

/-- Whether neither the outbox nor the attempts are different. -/
structure Still (w w' : MailRoom S) : Prop where
  memory : w'.memory = w.memory
  attempts : w'.attempts = w.attempts

/-- Whether one attempt was begun since: it is the last one, and what it accepted is
marked once it is saved. -/
structure UnderWay (w₀ : MailRoom S) (a : Attempt) (w : MailRoom S) : Prop where
  attempts : w.attempts = a :: w₀.attempts
  batches : w.memory.batches = w₀.memory.batches
  mails : w.memory.mails = w₀.memory.mails.map (Mail.markedIn (Attempt.confirmed [a]))

theorem UnderWay.ready (under : w₀.UnderWay a w) (ready : w₀.Ready) : w.Ready where
  unplanned := under.batches.trans ready.unplanned
  stored := by
    intro m hm
    rw [under.mails] at hm
    obtain ⟨n, hn, rfl⟩ := List.mem_map.1 hm
    rw [Mail.id_markedIn]
    exact ready.stored n hn
  distinct := by
    rw [under.mails, Mail.map_id_markedIn]
    exact ready.distinct

/-- As long as an attempt is not saved, it marks nothing. -/
theorem UnderWay.mails_eq (under : w₀.UnderWay a w) (unsaved : a.isSaved = false) :
    w.memory.mails = w₀.memory.mails := by
  rw [under.mails, Attempt.confirmed_of_unsaved unsaved, Mail.map_markedIn_nil]

/-- A call of the outbox may be cut before it takes effect and after. -/
theorem ends_lasting {α : Type} {act : Run S α} {Q : α → MailRoom S → Prop}
    {R : Cut → MailRoom S → Prop} (cut : ∀ s c, R c { w with around := s })
    (h : ∀ s, Virtual.Ends act { w with around := s } (fun a w' => Q a w' ∧ ∀ c, R c w') R) :
    Virtual.Ends (lasting act) w Q R := by
  unfold lasting
  refine .bind (.access (.bind (.pause (.bind ?_) fun c _ => cut _ c)))
  refine (h _).mono ?_ fun _ _ hR => hR
  intro result w' hend
  exact .bind (.pause (.pure hend.1) fun c _ => hend.2 c)

/-- The kept outbox gives its first pending mails. -/
theorem ends_kept_findPending {R : Cut → MailRoom S → Prop} (unplanned : w.memory.batches = [])
    (limit : Nat) :
    Virtual.Ends ((kept (S := S)).findPending limit) w
      (fun result w' => result = .ok ((Mail.pending w.memory.mails).take limit)
        ∧ w'.attempts = w.attempts ∧ w'.memory.batches = w.memory.batches
        ∧ w'.memory.mails = w.memory.mails) R := by
  refine .bind (.access (.pure ?_))
  dsimp only
  rw [Memory.fetch_eq unplanned]
  exact ⟨rfl, rfl, rfl, rfl⟩

/-- The kept outbox saves a batch with an id at hand for each of its mails. -/
theorem ends_kept_saveBatch {R : Cut → MailRoom S → Prop} (batch : List Mail) :
    Virtual.Ends ((kept (S := S)).saveBatch batch) w
      (fun result w' => w'.attempts = w.attempts ∧ ∃ fresh : List Uuid,
        fresh.length = batch.length
          ∧ w.memory.saveBatch fresh batch = (result, w'.memory)) R := by
  refine .bind (.freshIds _ fun fresh enough => .access ?_)
  exact ⟨rfl, fresh, enough, rfl⟩

theorem ends_findPending (ready : w.Ready) (limit : Nat) :
    Virtual.Ends (Outbox.findPending limit : Run S (Except Failure (List Mail))) w
      (fun result w' => result = .ok ((Mail.pending w.memory.mails).take limit)
        ∧ w.UnderWay (.opening ((Mail.pending w.memory.mails).take limit)) w')
      (fun _ w' => w.Still w'
        ∨ w.UnderWay (.opening ((Mail.pending w.memory.mails).take limit)) w') := by
  refine ends_lasting (fun s c => .inl ⟨rfl, rfl⟩) fun s => ?_
  refine .bind ((ends_kept_findPending (w := { w with around := s }) ready.unplanned limit).mono
    ?_ fun _ _ hR => hR)
  rintro _ w' ⟨rfl, attempts, batches, mails⟩
  have hunder : w.UnderWay (.opening ((Mail.pending w.memory.mails).take limit))
      (w'.openAttempt (.ok ((Mail.pending w.memory.mails).take limit))).2 :=
    ⟨congrArg _ attempts, batches, mails.trans (Mail.map_markedIn_nil _).symm⟩
  exact .bind (.access (.pure ⟨⟨rfl, hunder⟩, fun _ => .inr hunder⟩))

/-- What is noted of an attempt that is not saved leaves the mails as they are. -/
theorem UnderWay.note (under : w₀.UnderWay a w) (unsaved : a.isSaved = false)
    (more : Attempt → Attempt) (still : (more a).isSaved = false) :
    w₀.UnderWay (more a) (w.note more).2 where
  attempts := by rw [MailRoom.note, under.attempts, List.modifyHead_cons]
  batches := under.batches
  mails := by
    rw [Attempt.confirmed_of_unsaved still, Mail.map_markedIn_nil]
    exact under.mails_eq unsaved

/-- A mail is handed over with its own texts, or the call is cut before. -/
theorem ends_send (under : w₀.UnderWay a w) (unsaved : a.isSaved = false) (m : Mail) :
    Virtual.Ends (MailTransport.send m.address m.subject m.content :
        Run S (Except Failure Unit)) w
      (fun result w' => w₀.UnderWay (a.hand [m.handing result.isOk]) w')
      (fun _ w' => w₀.UnderWay a w'
        ∨ ∃ accepted, w₀.UnderWay (a.hand [m.handing accepted]) w') := by
  have hoffered : w₀.UnderWay a (w.offer m.address m.subject m.content).2 :=
    ⟨under.attempts, under.batches, under.mails⟩
  have hhanded : ∀ accepted, w₀.UnderWay (a.hand [m.handing accepted])
      ((w.offer m.address m.subject m.content).2.note (·.hand [m.handing accepted])).2 :=
    fun accepted => hoffered.note unsaved (·.hand [m.handing accepted]) unsaved
  refine .bind (.access (.bind (.pause ?_ fun _ _ => .inl hoffered)))
  refine .bind (.access (.bind (.pause ?_ fun _ _ => .inr ⟨_, hhanded _⟩)))
  cases hrefusal : (w.offer m.address m.subject m.content).1.refusal with
  | none => exact .pure (hhanded true)
  | some e => exact .pure (hhanded false)

/-- What goes back to the outbox marks exactly the mails that were accepted. -/
theorem markedBy_given (ready : w₀.Ready) (gave : a.Gave verdicts)
    (fetched : a.batch.Sublist (Mail.pending w₀.memory.mails)) {m : Mail}
    (hm : m ∈ w₀.memory.mails) :
    Memory.markedBy (List.zipWith Mail.given a.batch verdicts) m = m.markedIn a.accepted := by
  have hbatch : ∀ n ∈ a.batch, n ∈ w₀.memory.mails ∧ n.mailed = false := by
    intro n hn
    exact Mail.mem_pending.1 (fetched.subset hn)
  refine if_congr ?_ rfl rfl
  rw [Attempt.accepted, Attempt.judged_eq gave]
  simp only [Mail.mem_zipWith_given, List.mem_map, List.mem_filter, decide_eq_true_eq,
    Prod.exists]
  constructor
  · rintro ⟨_, ⟨n, v, hn, rfl⟩, hmailed, hid⟩
    obtain ⟨hmem, hunmarked⟩ := hbatch n (List.of_mem_zip hn).1
    rw [Mail.id_given] at hid
    cases v with
    | true => exact ⟨n, true, ⟨hn, rfl⟩, Mail.eq_of_id_eq ready.distinct hmem hm hid⟩
    | false => exact absurd (hunmarked.symm.trans hmailed) Bool.false_ne_true
  · rintro ⟨n, v, ⟨hn, rfl⟩, rfl⟩
    exact ⟨_, ⟨n, true, hn, rfl⟩, rfl, rfl⟩

/-- What goes back to the outbox is stored there. -/
theorem stored_given (ready : w₀.Ready)
    (fetched : a.batch.Sublist (Mail.pending w₀.memory.mails)) :
    ∀ b ∈ List.zipWith Mail.given a.batch verdicts, b.id ≠ none := by
  intro b hb
  obtain ⟨n, v, hn, rfl⟩ := Mail.mem_zipWith_given.1 hb
  rw [Mail.id_given]
  exact ready.stored n (Mail.mem_pending.1 (fetched.subset (List.of_mem_zip hn).1)).1

/-- A save marks what was accepted, or nothing when it fails. -/
theorem UnderWay.save (under : w₀.UnderWay a w) (ready : w₀.Ready) (unsaved : a.isSaved = false)
    (gave : a.Gave verdicts) (fetched : a.batch.Sublist (Mail.pending w₀.memory.mails))
    {fresh : List Uuid}
    (enough : fresh.length = (List.zipWith Mail.given a.batch verdicts).length)
    {result : Except Failure Unit} (attempts : w'.attempts = w.attempts)
    (hsave : w.memory.saveBatch fresh (List.zipWith Mail.given a.batch verdicts)
      = (result, w'.memory)) :
    w₀.UnderWay (a.save result.isOk) (w'.note (·.save result.isOk)).2 := by
  obtain ⟨hbatches, hcases⟩ :=
    Memory.saveBatch_cases (stored_given ready fetched) enough (under.ready ready).distinct hsave
  have hmails := under.mails_eq unsaved
  refine ⟨by rw [MailRoom.note, attempts, under.attempts, List.modifyHead_cons],
    hbatches.trans under.batches, ?_⟩
  change w'.memory.mails = _
  rcases hcases with ⟨rfl, hmarked⟩ | ⟨⟨e, rfl⟩, hkept⟩
  · have hdone : (a.save true).isSaved = true := by rw [Attempt.isSaved_save, Bool.or_true]
    have hmarks : Attempt.confirmed [a.save (Except.ok () : Except Failure Unit).isOk]
        = a.accepted := Attempt.confirmed_of_saved hdone
    rw [hmarks, hmarked, hmails]
    exact List.map_congr_left fun m hm => markedBy_given ready gave fetched hm
  · have hstill : (a.save false).isSaved = false := by
      rw [Attempt.isSaved_save, unsaved, Bool.or_false]
    have hmarks : Attempt.confirmed [a.save (Except.error e : Except Failure Unit).isOk] = [] :=
      Attempt.confirmed_of_unsaved hstill
    rw [hmarks, Mail.map_markedIn_nil, hkept, hmails]

/-- A save may be cut before it takes effect and after. -/
theorem ends_saveBatch (under : w₀.UnderWay a w) (ready : w₀.Ready) (unsaved : a.isSaved = false)
    (gave : a.Gave verdicts) (fetched : a.batch.Sublist (Mail.pending w₀.memory.mails)) :
    Virtual.Ends (Outbox.saveBatch (List.zipWith Mail.given a.batch verdicts) :
        Run S (Except Failure Unit)) w
      (fun result w' => w₀.UnderWay (a.save result.isOk) w')
      (fun _ w' => w₀.UnderWay a w' ∨ ∃ done, w₀.UnderWay (a.save done) w') := by
  have hpaced : ∀ s, w₀.UnderWay a { w with around := s } := fun _ =>
    ⟨under.attempts, under.batches, under.mails⟩
  refine ends_lasting (fun s _ => .inl (hpaced s)) fun s => ?_
  refine .bind ((ends_kept_saveBatch _).mono ?_ fun _ _ hR => hR)
  rintro result w' ⟨hattempts, fresh, enough, hsave⟩
  have hsaved := (hpaced s).save ready unsaved gave fetched enough hattempts hsave
  exact .bind (.access (.pure ⟨hsaved, fun _ => .inr ⟨_, hsaved⟩⟩))

end MailRoom

/-! ## Answers of the mailing -/

/-- The failure of the mailing that a failure is, if it is one. -/
def Failure.mailing? : Failure → Option MailingFailure
  | .mailing failure => some failure
  | .internal _ | .retriesExhausted _ _ | .commit _ | .auth _ | .token _ => none

/-- The failure of the mailing that a run of the dispatcher ends with, if it does. -/
def Dispatcher.failure? : Except Cut (Option (Except Failure DispatchReport)) →
    Option MailingFailure
  | .ok (some (.error e)) => e.mailing?
  | .ok (some (.ok _)) | .ok none | .error _ => none

theorem Dispatcher.of_failure? {answer : Except Cut (Option (Except Failure DispatchReport))}
    {failure : MailingFailure} (h : failure? answer = some failure) :
    answer = .ok (some (.error (.mailing failure))) := by
  rcases answer with c | _ | e | report
  · cases h
  · cases h
  · cases e with
    | mailing failure =>
      cases h
      rfl
    | _ => cases h
  · cases h

end Gatehouse
