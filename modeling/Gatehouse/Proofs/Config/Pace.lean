/-
  Gatehouse/Proofs/Config/Pace.lean --- the numbers that set the pace of the outbox.

  A variable that spells a number out of bounds leaves the built-in number in place.  The
  bounds are those of 64 bits, and three of the numbers are kept with 32: what does not fit
  is cut off after the bounds were checked, so a number may be kept that nobody wrote.  A
  batch size that is cut to nothing stops all delivery, and every run says that it went
  well.

  Main definitions: `PaceSetting`, `PaceSetting.Faithful`.
  Main statements: `MailingConfig.pace_faithful_iff`, `MailingConfig.batchSize_eq_zero_iff`,
  `Dispatcher.run_batchless`.
-/
import Gatehouse.Proofs.Mailing.Delivery
import Gatehouse.Proofs.Text.Numerals

set_option autoImplicit false

namespace Gatehouse

/-! ## Settings -/

/-- The numbers of the outbox that variables set. -/
inductive PaceSetting where
  | delay
  | processTimeout
  | batchSize
  | processMaxRetries
  | saveMaxRetries
  deriving DecidableEq, Repr

namespace PaceSetting

/-- The variable that sets a number. -/
def variableName : PaceSetting → String
  | .delay => "MAILING_DELAY_MS"
  | .processTimeout => "MAILING_PROCESS_TIMEOUT_MS"
  | .batchSize => "MAILING_BATCH_SIZE"
  | .processMaxRetries => "PROCESS_MAX_RETRIES"
  | .saveMaxRetries => "SAVE_MAIL_MAX_RETRIES"

/-- The number in a configuration. -/
def of (c : MailingConfig) : PaceSetting → Nat
  | .delay => c.delay
  | .processTimeout => c.processTimeout
  | .batchSize => c.batchSize
  | .processMaxRetries => c.processMaxRetries
  | .saveMaxRetries => c.saveMaxRetries

/-- The least number that may be set. -/
def least : PaceSetting → Nat
  | .delay => MailingConfig.minDelay
  | _ => 1

/-- Whether the number has 32 bits, and not 64. -/
def isNarrow : PaceSetting → Bool
  | .delay | .processTimeout => false
  | .batchSize | .processMaxRetries | .saveMaxRetries => true

/-- What is kept of a number. -/
def kept (x : PaceSetting) (n : Nat) : Nat := if x.isNarrow then n % 0x100000000 else n

/-- Whether a number passes the check. -/
structure Admits (x : PaceSetting) (n : Nat) : Prop where
  least : x.least ≤ n
  bits : n ≤ Numeral.max64

variable (vars : Variables) (x : PaceSetting)

/-- Whether the variable of a setting spells a number, of any size. -/
def Spelled (n : Nat) : Prop :=
  ∃ text, vars.get? x.variableName = some text ∧ Numeral.Spells text n

/-- Whether a setting keeps to its bound, and is what its variable spells or the built-in
number. -/
structure Faithful : Prop where
  least : x.least ≤ of (.ofVariables vars) x
  written : x.Spelled vars (of (.ofVariables vars) x) ∨ of (.ofVariables vars) x = of .default x

variable {vars x}

theorem Spelled.unique {n k : Nat} (hn : x.Spelled vars n) (hk : x.Spelled vars k) : n = k := by
  obtain ⟨text, htext, hspells⟩ := hn
  obtain ⟨text', htext', hspells'⟩ := hk
  obtain rfl := Option.some.inj (htext.symm.trans htext')
  exact hspells.unique hspells'

/-- A number of a variable that passes the check is one that is spelled and admitted. -/
theorem filter_number?_eq_some_iff {n : Nat} :
    (vars.number? x.variableName).filter (fun n => decide (x.least ≤ n)) = some n
      ↔ x.Spelled vars n ∧ x.Admits n := by
  rw [Option.filter_eq_some_iff, Variables.number?, Option.bind_eq_some_iff, decide_eq_true_iff]
  simp only [Numeral.read64?_eq_some_iff]
  constructor
  · rintro ⟨⟨text, htext, hspells, hbits⟩, hleast⟩
    exact ⟨⟨text, htext, hspells⟩, hleast, hbits⟩
  · rintro ⟨⟨text, htext, hspells⟩, hleast, hbits⟩
    exact ⟨⟨text, htext, hspells, hbits⟩, hleast⟩

/-- Every setting comes from its own variable in the same way. -/
theorem of_ofVariables (vars : Variables) (x : PaceSetting) :
    of (.ofVariables vars) x
      = (((vars.number? x.variableName).filter fun n => decide (x.least ≤ n)).map x.kept).getD
        (of .default x) := by
  have wide : ∀ (number : Option Nat) (fallback : Nat),
      number.getD fallback = (number.map fun n => n).getD fallback := by
    intro number fallback
    rw [Option.map_id']
  have narrow : ∀ name fallback, MailingConfig.count vars name 1 fallback
      = (((vars.number? name).filter fun n => decide (1 ≤ n)).map (· % 0x100000000)).getD
        fallback := by
    intro name fallback
    rw [MailingConfig.count]
    cases (vars.number? name).filter fun n => decide (1 ≤ n) with
    | none => rfl
    | some n => rfl
  cases x with
  | delay => exact wide _ _
  | processTimeout => exact wide _ _
  | batchSize => exact narrow _ _
  | processMaxRetries => exact narrow _ _
  | saveMaxRetries => exact narrow _ _

/-- A setting keeps the number that its variable spells, if that is admitted, and is the
built-in number otherwise. -/
theorem of_ofVariables_cases (vars : Variables) (x : PaceSetting) :
    (∃ n, x.Spelled vars n ∧ x.Admits n ∧ of (.ofVariables vars) x = x.kept n)
      ∨ (∀ n, x.Spelled vars n → ¬ x.Admits n) ∧ of (.ofVariables vars) x = of .default x := by
  rw [of_ofVariables]
  cases hnumber : (vars.number? x.variableName).filter fun n => decide (x.least ≤ n) with
  | none =>
    refine .inr ⟨?_, rfl⟩
    intro n spelled admits
    exact nomatch hnumber.symm.trans (filter_number?_eq_some_iff.2 ⟨spelled, admits⟩)
  | some n =>
    obtain ⟨spelled, admits⟩ := filter_number?_eq_some_iff.1 hnumber
    exact .inl ⟨n, spelled, admits, rfl⟩

theorem least_le_default (x : PaceSetting) : x.least ≤ of .default x := by
  cases x with
  | _ => decide

theorem kept_eq_self_iff {n : Nat} : x.kept n = n ↔ x.isNarrow = false ∨ n ≤ Numeral.max32 := by
  rw [kept, Numeral.max32]
  cases x.isNarrow with
  | false => exact iff_of_true rfl (.inl rfl)
  | true =>
    simp only [reduceIte, Bool.true_eq_false, false_or]
    omega

end PaceSetting

/-! ## Configurations -/

namespace MailingConfig

open PaceSetting

variable (vars : Variables) (x : PaceSetting)

/-- A number that a variable spells and the check admits is set as far as its bits go, and
without one the built-in number stays.  A setting is faithful unless a number that it
admits has more bits than it keeps, and what is left of them is not the built-in number. -/
theorem pace_faithful_iff :
    (∀ n, x.Spelled vars n → x.Admits n → of (.ofVariables vars) x = x.kept n)
      ∧ ((∀ n, x.Spelled vars n → ¬ x.Admits n) → of (.ofVariables vars) x = of .default x)
      ∧ (x.Faithful vars ↔ ∀ n, x.Spelled vars n → x.Admits n →
        x.isNarrow = false ∨ n ≤ Numeral.max32 ∨ n % 0x100000000 = of .default x) := by
  obtain ⟨n, spelled, admits, hset⟩ | ⟨refused, hset⟩ := of_ofVariables_cases vars x
  · refine ⟨?_, fun refused => absurd admits (refused n spelled), ?_, ?_⟩
    · intro k spelled' _
      rw [hset, spelled.unique spelled']
    · rintro ⟨-, written⟩ k spelled' -
      obtain rfl := spelled.unique spelled'
      rw [hset] at written
      rcases written with same | built
      · rw [← or_assoc, ← kept_eq_self_iff]
        exact .inl (same.unique spelled)
      · cases hbits : x.isNarrow with
        | false => exact .inl rfl
        | true =>
          rw [kept, if_pos hbits] at built
          exact .inr (.inr built)
    · intro fits
      have hwhole : x.kept n = n ∨ x.kept n = of .default x := by
        rcases fits n spelled admits with wide | short | built
        · exact .inl (kept_eq_self_iff.2 (.inl wide))
        · exact .inl (kept_eq_self_iff.2 (.inr short))
        · rw [kept]
          split
          · exact .inr built
          · exact .inl rfl
      rcases hwhole with whole | built
      · rw [whole] at hset
        exact ⟨hset ▸ admits.least, .inl (hset ▸ spelled)⟩
      · exact ⟨(hset.trans built) ▸ x.least_le_default, .inr (hset.trans built)⟩
  · refine ⟨fun k spelled admits => absurd admits (refused k spelled), fun _ => hset, ?_, ?_⟩
    · intro _ k spelled admits
      exact absurd admits (refused k spelled)
    · intro _
      exact ⟨hset ▸ x.least_le_default, .inr hset⟩

/-- The batch size is nothing when the variable spells a multiple of 2 to the 32nd. -/
theorem batchSize_eq_zero_iff :
    (ofVariables vars).batchSize = 0
      ↔ ∃ n, PaceSetting.batchSize.Spelled vars n ∧ PaceSetting.batchSize.Admits n
        ∧ 0x100000000 ∣ n := by
  obtain ⟨n, spelled, admits, hset⟩ | ⟨refused, hset⟩ := of_ofVariables_cases vars .batchSize
  · change (ofVariables vars).batchSize = n % 0x100000000 at hset
    rw [hset, ← Nat.dvd_iff_mod_eq_zero]
    constructor
    · intro hdvd
      exact ⟨n, spelled, admits, hdvd⟩
    · rintro ⟨k, spelled', -, hdvd⟩
      rwa [spelled.unique spelled']
  · change (ofVariables vars).batchSize = 20 at hset
    rw [hset]
    refine iff_of_false (by decide) ?_
    rintro ⟨k, spelled, admits, -⟩
    exact refused k spelled admits

/-- Variables that ask for batches of 2 to the 32nd. -/
def hugeBatches : Variables := [("MAILING_BATCH_SIZE", "4294967296")]

/-- A batch size of 2 to the 32nd passes the check and is kept as none at all. -/
theorem pace_not_always_faithful :
    PaceSetting.batchSize.Spelled hugeBatches 4294967296
      ∧ PaceSetting.batchSize.Admits 4294967296
      ∧ (ofVariables hugeBatches).batchSize = 0
      ∧ ¬ PaceSetting.batchSize.Faithful hugeBatches := by
  refine ⟨⟨"4294967296", rfl, "4294967296".toList, .inl rfl, by decide,
    List.all_eq_true.1 (by decide), by decide⟩, ⟨by decide, by decide⟩, rfl, ?_⟩
  rintro ⟨least, -⟩
  exact absurd least (by decide)

end MailingConfig

/-! ## Runs without a batch -/

namespace Dispatcher

variable {S : Surroundings} {d : Dispatcher} {w w₁ : MailRoom S} {as : List Attempt}

/-- Nothing is fetched, handed over or marked when there is no room in a batch. -/
theorem Course.batchless (none : d.batchSize = 0) (course : d.Course w as w₁) :
    w₁.memory.mails = w.memory.mails ∧ ∀ a ∈ as, a.batch = [] ∧ a.handings = [] := by
  have hempty : ∀ a ∈ as, a.batch = [] ∧ a.handings = [] := by
    refine course.forall_attempts fun _ attempted => ?_
    have hbatch := attempted.batch
    rw [none, List.take_zero] at hbatch
    obtain ⟨verdicts, hgave⟩ := attempted.gave
    refine ⟨hbatch, ?_⟩
    rw [hgave.handings, hbatch, List.zipWith_nil_left]
  have hnone : Attempt.confirmed as = [] := by
    rw [Attempt.confirmed, List.flatMap_eq_nil_iff]
    intro a ha
    exact Attempt.judged_of_empty (hempty a (List.mem_of_mem_filter ha)).1 true
  refine ⟨?_, hempty⟩
  rw [course.mails, hnone, Mail.map_markedIn_nil]

/-- With no room in a batch, a run leaves every mail where it is and hands none of them
over; the report, if nothing cuts the run short, is that the outbox is drained. -/
theorem run_batchless (none : d.batchSize = 0) (fuel : Nat) {rt : Runtime (MailRoom S)}
    (ready : rt.world.Ready) (unseen : rt.world.attempts = []) (free : rt.deadline = .none) :
    ∃ answer rt', Virtual.runOn (d.run fuel) rt = (.ok answer, rt')
      ∧ rt'.world.memory.mails = rt.world.memory.mails
      ∧ (∀ a ∈ rt'.world.attempts, a.handings = [])
      ∧ ∀ report, answer = some (.ok report) →
        report = { cycles := 1, delivered := 0, failed := 0 } := by
  obtain ⟨answer, rt', as, hrun, course, hbounded, hended⟩ := d.exists_run fuel ready free
  obtain ⟨hmails, hempty⟩ := course.batchless none
  have hattempts := course.attempts
  rw [unseen, List.append_nil] at hattempts
  refine ⟨answer, rt', hrun, hmails, ?_, ?_⟩
  · rw [hattempts]
    exact fun a ha => (hempty a ha).2
  · rintro report rfl
    obtain ⟨rfl, a, before, rfl, -⟩ := hended
    have hdone : ∀ b ∈ a :: before, b.isCompleted = true := fun b hb =>
      Attempt.isCompleted_of_empty (hempty b hb).1
    -- No batch is saved, so there is one completed cycle at most.
    have hgiving : ∀ b ∈ a :: before, b.isSaved = true → b.accepted ≠ [] :=
      course.forall_attempts fun _ attempted hsaved => (attempted.saved hsaved).2
    have hunsaved : (a :: before).countP Attempt.isSaved = 0 := List.countP_eq_zero.2
      fun b hb hsaved => hgiving b hb hsaved (Attempt.judged_of_empty (hempty b hb).1 true)
    have hcycles := hbounded.completed
    rw [hunsaved, List.countP_eq_length.2 hdone] at hcycles
    obtain rfl : before = [] := by
      rw [← List.length_eq_zero_iff]
      simp only [List.length_cons] at hcycles
      omega
    have hlast := (hempty a (List.mem_singleton_self a)).1
    rw [DispatchReport.plus_cycle (List.forall_mem_nil _) (Attempt.isCompleted_of_empty hlast),
      Attempt.accepted, Attempt.refused, Attempt.judged_of_empty hlast,
      Attempt.judged_of_empty hlast]
    rfl

end Dispatcher

end Gatehouse
