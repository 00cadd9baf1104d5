/-
  Gatehouse/Proofs/Mailing/Delivery.lean --- what a run does to the mails of the outbox.

  A mail is marked only when an attempt that handed it over with success was saved, and
  from then on it is not fetched again.  Everything follows from one attempt: it fetches
  pending mails only, and what it marks is what the relay accepted from it.

  Main definition: `Dispatcher.Faithful`.
  Main statement: `Dispatcher.run_faithful`.
-/
import Gatehouse.Proofs.Mailing.Course

set_option autoImplicit false

namespace Gatehouse

theorem Attempt.confirmed_cons (a : Attempt) (as : List Attempt) :
    confirmed (a :: as) = confirmed [a] ++ confirmed as := by
  rw [confirmed, confirmed, confirmed, ← List.singleton_append, List.filter_append,
    List.flatMap_append]

theorem Attempt.mem_confirmed {as : List Attempt} {m : Mail} :
    m ∈ confirmed as ↔ ∃ a ∈ as, a.isSaved = true ∧ m ∈ a.accepted := by
  simp only [confirmed, List.mem_flatMap, List.mem_filter, and_assoc]

namespace Dispatcher

variable {S : Surroundings} {d : Dispatcher} {w w₁ : MailRoom S} {a : Attempt}
  {as : List Attempt}

namespace Attempted

theorem fetched (attempted : d.Attempted w a w₁) :
    a.batch.Sublist (Mail.pending w.memory.mails) := by
  rw [attempted.batch]
  exact List.take_sublist _ _

theorem accepted_sublist (attempted : d.Attempted w a w₁) :
    a.accepted.Sublist (Mail.pending w.memory.mails) :=
  (a.judged_sublist true).trans attempted.fetched

end Attempted

/-! ## Attempts in a row -/

namespace Course

/-- The mails that were accepted in a saved attempt are marked, and nothing else is
different. -/
theorem mails (course : d.Course w as w₁) :
    w₁.memory.mails = w.memory.mails.map (Mail.markedIn (Attempt.confirmed as)) := by
  induction course with
  | start still =>
    rw [still.memory]
    exact (Mail.map_markedIn_nil _).symm
  | @attempt as a w₁ w₂ _ attempted ih =>
    have hunmarked : ∀ m ∈ Attempt.confirmed [a], m.mailed = false := by
      intro m hm
      obtain ⟨b, hb, -, haccepted⟩ := Attempt.mem_confirmed.1 hm
      obtain rfl := List.mem_singleton.1 hb
      exact (Mail.mem_pending.1 (attempted.accepted_sublist.subset haccepted)).2
    rw [attempted.under.mails, ih, List.map_map, Attempt.confirmed_cons a as]
    exact List.map_congr_left fun m _ => Mail.markedIn_markedIn hunmarked m

/-- An attempt fetches what was pending at the start and was not accepted in a saved
attempt since. -/
theorem fetched (course : d.Course w as w₁) {w₂ : MailRoom S} (attempted : d.Attempted w₁ a w₂) :
    a.batch.Sublist ((Mail.pending w.memory.mails).filter
      fun m => m ∉ Attempt.confirmed as) := by
  have hfetched := attempted.fetched
  rwa [course.mails, Mail.pending_map_markedIn] at hfetched

/-- What every attempt satisfies that follows a course. -/
theorem forall_attempts {P : Attempt → Prop} (course : d.Course w as w₁)
    (h : ∀ {bs w₂ a w₃}, d.Course w bs w₂ → d.Attempted w₂ a w₃ → P a) : ∀ a ∈ as, P a := by
  induction course with
  | start _ => exact nofun
  | attempt course attempted ih => exact List.forall_mem_cons.2 ⟨h course attempted, ih⟩

/-- What an attempt accepts, no saved attempt before it has accepted. -/
theorem again (course : d.Course w as w₁) :
    as.Pairwise fun later earlier =>
      ∀ m ∈ earlier.accepted, m ∈ later.accepted → earlier.isSaved = false := by
  induction course with
  | start _ => exact .nil
  | @attempt as a _ _ course attempted ih =>
    refine List.pairwise_cons.2 ⟨?_, ih⟩
    intro earlier hearlier m hm hagain
    have hunconfirmed : m ∉ Attempt.confirmed as := by
      have hmem := (course.fetched attempted).subset ((a.judged_sublist true).subset hagain)
      exact of_decide_eq_true (List.mem_filter.1 hmem).2
    rw [← Bool.not_eq_true]
    intro hsaved
    exact hunconfirmed (Attempt.mem_confirmed.2 ⟨earlier, hearlier, hsaved, hm⟩)

end Course

/-! ## Runs -/

/-- Whether some attempts, the last first, and what the outbox holds before and after are
those of a faithful delivery. -/
structure Faithful (before after : List Mail) (attempts : List Attempt) : Prop where
  /-- Every mail keeps its place and all it says; the ones that were accepted in a saved
  attempt are marked. -/
  place : after = before.map (Mail.markedIn (Attempt.confirmed attempts))
  /-- A mail that was pending still is, or it was accepted at least once. -/
  once : ∀ m ∈ before, m.mailed = false → m ∈ after ∨ ∃ a ∈ attempts, m ∈ a.accepted
  /-- A mail is marked only if it was, or if the relay accepted that very mail. -/
  earned : ∀ (i : Nat) (m m' : Mail), before[i]? = some m → after[i]? = some m' →
    m'.mailed = true → m.mailed = true ∨ ∃ a ∈ attempts, a.isSaved = true ∧ m ∈ a.accepted
  /-- Only pending mails are fetched, each at most once an attempt. -/
  fetched : ∀ a ∈ attempts, a.batch.Sublist (Mail.pending before) ∧ a.batch.Nodup
  /-- The relay is handed the mails of a batch in order, with their own texts, and nothing
  else. -/
  handed : ∀ a ∈ attempts, ∃ verdicts, a.Gave verdicts
  /-- A mail is accepted a further time only if no attempt that accepted it before was
  saved. -/
  again : attempts.Pairwise fun later earlier =>
    ∀ m ∈ earlier.accepted, m ∈ later.accepted → earlier.isSaved = false

theorem Course.faithful (course : d.Course w as w₁) (ready : w.Ready) :
    Faithful w.memory.mails w₁.memory.mails as where
  place := course.mails
  once m hm unmarked := by
    by_cases hconfirmed : m ∈ Attempt.confirmed as
    · obtain ⟨a, ha, -, haccepted⟩ := Attempt.mem_confirmed.1 hconfirmed
      exact .inr ⟨a, ha, haccepted⟩
    · have hkept : m.markedIn (Attempt.confirmed as) = m := if_neg hconfirmed
      rw [course.mails]
      exact .inl (List.mem_map.2 ⟨m, hm, hkept⟩)
  earned i m m' hm hm' marked := by
    rw [course.mails, List.getElem?_map, hm] at hm'
    obtain rfl := Option.some.inj hm'
    by_cases hconfirmed : m ∈ Attempt.confirmed as
    · exact .inr (Attempt.mem_confirmed.1 hconfirmed)
    · rw [Mail.markedIn, if_neg hconfirmed] at marked
      exact .inl marked
  fetched := by
    refine course.forall_attempts fun course attempted => ?_
    have hfetched := (course.fetched attempted).trans List.filter_sublist
    exact ⟨hfetched, (Mail.nodup_pending ready.distinct).sublist hfetched⟩
  handed := course.forall_attempts fun _ attempted => attempted.gave
  again := course.again

/-- Whatever ends a run, it has dealt faithfully with every mail. -/
theorem run_faithful (d : Dispatcher) (fuel : Nat) {rt : Runtime (MailRoom S)}
    (ready : rt.world.Ready) (unseen : rt.world.attempts = []) (free : rt.deadline = none) :
    ∃ answer rt', Virtual.runOn (d.run fuel) rt = (.ok answer, rt')
      ∧ Faithful rt.world.memory.mails rt'.world.memory.mails rt'.world.attempts := by
  obtain ⟨answer, rt', as, hrun, course, -, -⟩ := d.exists_run fuel ready free
  have hattempts := course.attempts
  rw [unseen, List.append_nil] at hattempts
  refine ⟨answer, rt', hrun, ?_⟩
  rw [hattempts]
  exact course.faithful ready

/-- A run that is stopped between an acceptance and the save. -/
theorem run_faithful_stopped :
    ∃ rt', Virtual.runOn ((ofConfig .default).run 3)
          { Runtime.new .counting MailRoom.small with stop := some ⟨15, true⟩ }
        = (.ok (some (.error (.mailing (.cancelled 0 0 0)))), rt')
      ∧ rt'.world.attempts.map (fun a => (a.accepted.map Mail.address, a.saves))
        = [(["eve@yas.org"], [])]
      ∧ rt'.world.memory.mails = MailRoom.small.memory.mails
      ∧ Faithful MailRoom.small.memory.mails rt'.world.memory.mails rt'.world.attempts := by
  have hready : { Runtime.new .counting MailRoom.small with stop := some ⟨15, true⟩ }.world.Ready :=
    MailRoom.ready_small
  obtain ⟨answer, rt', hrun, hfaithful⟩ := run_faithful (ofConfig .default) 3 hready rfl rfl
  have hends : (Virtual.runOn ((ofConfig .default).run 3)
        { Runtime.new .counting MailRoom.small with stop := some ⟨15, true⟩ }).map failure?
        (fun after => (after.world.attempts.map fun a => (a.accepted.map Mail.address, a.saves),
          after.world.memory.mails))
      = (some (.cancelled 0 0 0), [(["eve@yas.org"], [])], MailRoom.small.memory.mails) := by
    decide +kernel
  rw [hrun] at hends
  obtain ⟨hfailure, hkept⟩ := Prod.mk.inj hends
  obtain ⟨hattempts, hmails⟩ := Prod.mk.inj hkept
  rw [of_failure? hfailure] at hrun
  exact ⟨rt', hrun, hattempts, hmails, hfaithful⟩

end Dispatcher

end Gatehouse
