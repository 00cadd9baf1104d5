/-
  Gatehouse/Proofs/Ending.lean --- how computations in virtual time may end.

  A computation that waits may be given up at each of its waits, by a deadline or a
  request to stop.  What is said here about a computation covers both ends: the results
  that it has and the worlds that it leaves behind, and the worlds in which it is given
  up.  Only the world counts; the log, the observations and the time do not.  The rules
  follow the ways of building computations, so that a workflow is taken apart from its
  front, one call at a time.

  Main definition: `Virtual.Ends`.
  Main statements: `Virtual.Ends.bind`, `Virtual.Ends.within`,
  `Virtual.Ends.unlessStopped`, `Step.ends_bind`, `Retrier.ends_process`.
-/
import Gatehouse.Proofs.Running
import Gatehouse.Retrier

set_option autoImplicit false

namespace Gatehouse

/-- Whether work may be given up for a reason: only a deadline or a request to stop that
is set ends a wait too early. -/
def Cut.IsDue {σ : Type} (rt : Runtime σ) : Cut → Prop
  | .deadline => rt.deadline ≠ none
  | .stop => rt.stop ≠ none
  | .overflow => False

theorem Cut.isDue_congr {σ : Type} {rt rt' : Runtime σ} (deadline : rt'.deadline = rt.deadline)
    (stop : rt'.stop = rt.stop) (c : Cut) : c.IsDue rt' ↔ c.IsDue rt := by
  cases c
  · rw [IsDue, IsDue, deadline]
  · rw [IsDue, IsDue, stop]
  · rfl

theorem Runtime.isDue_of_cutBefore? {σ : Type} {rt : Runtime σ} {target instant : Nat} {c : Cut}
    (h : rt.cutBefore? target = some (c, instant)) : c.IsDue rt := by
  have hstop : ∀ {s}, rt.stopBefore? target = some s → rt.stop ≠ none := by
    intro s hs hnone
    rw [stopBefore?, hnone] at hs
    cases hs
  have hdeadline : ∀ {d}, rt.deadlineBefore? target = some d → rt.deadline ≠ none := by
    intro d hd hnone
    rw [deadlineBefore?, hnone] at hd
    cases hd
  unfold cutBefore? at h
  split at h
  · cases h
  · rename_i s hs _
    cases h
    exact hstop hs
  · rename_i d _ hd
    cases h
    exact hdeadline hd
  · rename_i s d hs hd
    split at h
    · cases h
      exact hstop hs
    · cases h
      exact hdeadline hd

namespace Virtual

variable {σ α β : Type}

/-- Whether a computation that starts in a world has only results and worlds that satisfy
`Q`, and is given up only for reasons and in worlds that satisfy `R`.  Either way the
deadline and the request to stop are left as they were. -/
def Ends (act : Virtual σ α) (w : σ) (Q : α → σ → Prop) (R : Cut → σ → Prop) : Prop :=
  ∀ rt, rt.world = w → ∃ result rt', act.runOn rt = (result, rt')
    ∧ rt'.deadline = rt.deadline ∧ rt'.stop = rt.stop
    ∧ match result with
      | .ok a => Q a rt'.world
      | .error c => c.IsDue rt ∧ R c rt'.world

/-- One access to the world. -/
def access (f : σ → α × σ) : Virtual σ α :=
  modifyGet fun rt => ((f rt.world).1, { rt with world := (f rt.world).2 })

namespace Ends

variable {act : Virtual σ α} {w : σ} {Q Q' : α → σ → Prop} {R R' : Cut → σ → Prop}

/-- A computation whose only possible cut is a deadline is not given up without one. -/
theorem exists_ok (h : Ends act w Q fun c _ => c = .deadline) {rt : Runtime σ}
    (start : rt.world = w) (free : rt.deadline = none) :
    ∃ a rt', act.runOn rt = (.ok a, rt') ∧ Q a rt'.world := by
  obtain ⟨result, rt', hrun, -, -, hend⟩ := h rt start
  cases result with
  | ok a => exact ⟨a, rt', hrun, hend⟩
  | error c =>
    obtain ⟨hdue, rfl⟩ := hend
    exact absurd free hdue

theorem mono (h : Ends act w Q R) (hQ : ∀ a w', Q a w' → Q' a w')
    (hR : ∀ c w', R c w' → R' c w') : Ends act w Q' R' := by
  intro rt start
  obtain ⟨result, rt', hrun, hdeadline, hstop, hend⟩ := h rt start
  refine ⟨result, rt', hrun, hdeadline, hstop, ?_⟩
  cases result with
  | ok a => exact hQ a _ hend
  | error c => exact ⟨hend.1, hR c _ hend.2⟩

/-- Nothing here is given up for a sum of time that does not exist. -/
theorem due (h : Ends act w Q R) : Ends act w Q fun c w' => c ≠ .overflow ∧ R c w' := by
  intro rt start
  obtain ⟨result, rt', hrun, hdeadline, hstop, hend⟩ := h rt start
  refine ⟨result, rt', hrun, hdeadline, hstop, ?_⟩
  cases result with
  | ok a => exact hend
  | error c =>
    refine ⟨hend.1, ?_, hend.2⟩
    rintro rfl
    exact hend.1

theorem pure {a : α} (h : Q a w) : Ends (Pure.pure a) w Q R := by
  rintro rt rfl
  exact ⟨.ok a, rt, rfl, rfl, rfl, h⟩

theorem bind {f : α → Virtual σ β} {Q : β → σ → Prop}
    (h : Ends act w (fun a w' => Ends (f a) w' Q R) R) : Ends (act >>= f) w Q R := by
  intro rt start
  obtain ⟨result, rt₁, hrun, hdeadline, hstop, hend⟩ := h rt start
  rw [runOn_bind, hrun]
  cases result with
  | error c => exact ⟨.error c, rt₁, rfl, hdeadline, hstop, hend⟩
  | ok a =>
    obtain ⟨result, rt₂, hrun₂, hdeadline₂, hstop₂, hend₂⟩ := hend rt₁ rfl
    refine ⟨result, rt₂, hrun₂, hdeadline₂.trans hdeadline, hstop₂.trans hstop, ?_⟩
    cases result with
    | ok b => exact hend₂
    | error c => exact ⟨(Cut.isDue_congr hdeadline hstop c).1 hend₂.1, hend₂.2⟩

theorem map {f : α → β} {Q : β → σ → Prop} (h : Ends act w (fun a => Q (f a)) R) :
    Ends (f <$> act) w Q R := by
  rw [← bind_pure_comp]
  exact bind (h.mono (fun _ _ hQ => pure hQ) fun _ _ hR => hR)

/-- A failure is handed on. -/
theorem attempt_bind {x : ExceptT Failure (Virtual σ) α} {f : α → ExceptT Failure (Virtual σ) β}
    {Q : Except Failure β → σ → Prop}
    (h : Ends x.run w (fun result w' => match result with
      | .ok a => Ends (f a).run w' Q R
      | .error e => Q (.error e) w') R) : Ends (x >>= f).run w Q R := by
  rw [ExceptT.run_bind]
  refine bind (h.mono ?_ fun _ _ hR => hR)
  rintro (e | a) w' hnext
  · exact pure hnext
  · exact hnext

theorem attempt_lift {Q : Except Failure α → σ → Prop} (h : Ends act w (fun a => Q (.ok a)) R) :
    Ends (ExceptT.lift act : ExceptT Failure (Virtual σ) α).run w Q R := by
  rw [ExceptT.run_lift]
  exact map h

theorem log {e : LogEvent} {Q : Unit → σ → Prop} (h : Q () w) :
    Ends (Gatehouse.log e) w Q R := by
  rintro rt rfl
  exact ⟨.ok (), rt.logged e, rfl, rfl, rfl, h⟩

theorem observe {o : Observation} {Q : Unit → σ → Prop} (h : Q () w) :
    Ends (Gatehouse.observe o) w Q R := by
  intro rt start
  subst start
  cases hobserver : rt.observer with
  | record =>
    refine ⟨.ok (), { rt with observed := rt.observed ++ [o] }, ?_, rfl, rfl, h⟩
    exact runOn_observe rt o hobserver
  | trace =>
    refine ⟨.ok (), { rt with events := rt.events ++ [o.toEvent] }, ?_, rfl, rfl, h⟩
    cases rt
    cases hobserver
    rfl

theorem access {f : σ → α × σ} (h : Q (f w).1 (f w).2) : Ends (Virtual.access f) w Q R := by
  rintro rt rfl
  exact ⟨.ok (f rt.world).1, { rt with world := (f rt.world).2 }, rfl, rfl, rfl, h⟩

theorem freshId {Q : Uuid → σ → Prop} (h : ∀ id, Q id w) : Ends Gatehouse.freshId w Q R := by
  rintro rt rfl
  exact ⟨.ok (rt.entropy.idAt rt.entropy.drawn), rt.drew, rfl, rfl, rfl, h _⟩

/-- A wait changes nothing, whether it comes to its end or not. -/
theorem pause {ms : Nat} {Q : Unit → σ → Prop} (h : Q () w)
    (cut : ∀ c, c ≠ .overflow → R c w) : Ends (Gatehouse.pause ms) w Q R := by
  rintro rt rfl
  have hrun : (Gatehouse.pause ms : Virtual σ Unit).runOn rt = Runtime.wait ms rt := rfl
  rw [hrun, Runtime.wait]
  cases hcut : rt.cutBefore? (rt.elapsed + ms) with
  | none => exact ⟨.ok (), _, rfl, rfl, rfl, h⟩
  | some p =>
    have hdue := Runtime.isDue_of_cutBefore? hcut
    refine ⟨.error p.1, _, rfl, rfl, rfl, hdue, cut p.1 fun hoverflow => ?_⟩
    rw [hoverflow] at hdue
    exact hdue

/-- Within a deadline of its own, work is given up for any other reason as before. -/
theorem within {ms : Nat} {Q : Option α → σ → Prop}
    (h : Ends act w (fun a => Q (some a))
      fun c w' => if c = .deadline then Q none w' else R c w') :
    Ends (Gatehouse.within ms act) w Q R := by
  rintro rt rfl
  obtain ⟨result, rt', hrun, -, hstop, hend⟩ :=
    h { rt with deadline := some (rt.elapsed + ms) } rfl
  simp only [runOn, ExceptT.run, StateT.run] at hrun
  simp only [runOn, Gatehouse.within, ExceptT.run, StateT.run, hrun]
  cases result with
  | ok a => exact ⟨.ok (some a), _, rfl, rfl, hstop, hend⟩
  | error c =>
    obtain ⟨hdue, hend⟩ := hend
    cases c with
    | deadline => exact ⟨.ok none, _, rfl, rfl, hstop, hend⟩
    | stop => exact ⟨.error .stop, _, rfl, rfl, hstop, hdue, hend⟩
    | overflow => exact hdue.elim

/-- Work that ends when the program is asked to stop may not begin either. -/
theorem unlessStopped {Q : Option α → σ → Prop} (stopped : Q none w)
    (h : Ends act w (fun a => Q (some a)) fun c w' => if c = .stop then Q none w' else R c w') :
    Ends (Gatehouse.unlessStopped act) w Q R := by
  rintro rt rfl
  obtain ⟨result, rt', hrun, hdeadline, hstop, hend⟩ := h rt rfl
  simp only [runOn, ExceptT.run, StateT.run] at hrun
  simp only [runOn, Gatehouse.unlessStopped, ExceptT.run, StateT.run, hrun]
  by_cases hbefore : rt.isStopped = true
  · rw [if_pos hbefore]
    exact ⟨.ok none, rt, rfl, rfl, rfl, stopped⟩
  rw [if_neg hbefore]
  cases result with
  | ok a => exact ⟨.ok (some a), rt', rfl, hdeadline, hstop, hend⟩
  | error c =>
    obtain ⟨hdue, hend⟩ := hend
    cases c with
    | deadline => exact ⟨.error .deadline, rt', rfl, hdeadline, hstop, hdue, hend⟩
    | stop => exact ⟨.ok none, rt', rfl, hdeadline, hstop, hend⟩
    | overflow => exact hdue.elim

/-- Drawing an id for each item of a list. -/
theorem freshIds {ι : Type} {Q : List Uuid → σ → Prop} (items : List ι)
    (h : ∀ ids, ids.length = items.length → Q ids w) :
    Ends (items.mapM fun _ => Gatehouse.freshId) w Q R := by
  induction items generalizing Q with
  | nil =>
    rw [List.mapM_nil]
    exact pure (h [] rfl)
  | cons i items ih =>
    rw [List.mapM_cons]
    refine bind (freshId fun id => bind (ih ?_))
    intro ids hids
    exact pure (h (id :: ids) (congrArg Nat.succ hids))

end Ends

end Virtual

/-! ## Pieces of a step -/

namespace Step

open Virtual (Ends)

variable {σ α β : Type} {K : UnitKinds} {u : UnitOfWork K} {w : σ} {R : Cut → σ → Prop}

/-- A failure leaves the unit of work as it was made up to there. -/
theorem ends_bind {x : Step K (Virtual σ) α} {f : α → Step K (Virtual σ) β}
    {Q : Except Failure β × UnitOfWork K → σ → Prop}
    (h : Ends (x.runOn u) w (fun p w' => match p with
      | (.ok a, v) => Ends ((f a).runOn v) w' Q R
      | (.error e, v) => Q (.error e, v) w') R) : Ends ((x >>= f).runOn u) w Q R := by
  unfold Step.runOn at h ⊢
  rw [ExceptT.run_bind, StateT.run_bind]
  refine .bind (h.mono ?_ fun _ _ hR => hR)
  rintro ⟨_ | a, v⟩ w' hnext
  · exact .pure hnext
  · exact hnext

theorem ends_lift {act : Virtual σ α} {Q : Except Failure α × UnitOfWork K → σ → Prop}
    (h : Ends act w (fun a => Q (.ok a, u)) R) :
    Ends (Step.runOn (Step.lift (ExceptT.lift act) : Step K (Virtual σ) α) u) w Q R := by
  have hrun : Step.runOn (Step.lift (ExceptT.lift act) : Step K (Virtual σ) α) u
      = (fun a => (Except.ok a, u)) <$> act := by
    rw [Step.runOn, Step.lift, ExceptT.run_mk, StateT.run_lift, ExceptT.run_lift,
      bind_pure_comp, Functor.map_map]
  rw [hrun]
  exact .map h

end Step

/-! ## Trying again -/

namespace Retrier

variable {σ α : Type} {op : Virtual σ (Except Failure α)} {R : Cut → σ → Prop} (r : Retrier)
  (Tried : Nat → σ → Prop) (Q : α → σ → Prop)

/-- What failed attempts lead to is carried from each to the next, up to the last one. -/
theorem ends_attempts {n : Nat}
    (attempt : ∀ k w, k ≤ n → Tried k w → Virtual.Ends op w (fun result w' => match result with
      | .ok a => Q a w'
      | .error _ => Tried (k + 1) w') R)
    (cut : ∀ k w c, Tried k w → R c w) :
    ∀ (left number k : Nat) (w : σ), k + left = n → Tried k w →
      Virtual.Ends (r.attempts op left number) w (fun result w' => match result with
        | .ok a => Q a w'
        | .error _ => Tried (n + 1) w') R := by
  intro left
  induction left with
  | zero =>
    rintro number k w rfl tried
    rw [attempts]
    refine .bind ((attempt k w (Nat.le_refl _) tried).mono ?_ fun _ _ h => h)
    intro result w' h
    cases result with
    | ok a => exact .pure h
    | error e => exact .bind (.observe (.pure h))
  | succ left ih =>
    intro number k w hn tried
    rw [attempts]
    refine .bind ((attempt k w (by omega) tried).mono ?_ fun _ _ h => h)
    intro result w' h
    cases result with
    | ok a => exact .pure h
    | error e =>
      refine .bind (.observe (.bind (.pause ?_ fun c _ => cut _ _ c h)))
      exact ih (number + 1) (k + 1) w' (by omega) h

/-- An operation that is tried again fails for good only after all its attempts. -/
theorem ends_process {w : σ}
    (attempt : ∀ k w, k ≤ r.maxRetries → Tried k w → Virtual.Ends op w
      (fun result w' => match result with
        | .ok a => Q a w'
        | .error _ => Tried (k + 1) w') R)
    (cut : ∀ k w c, Tried k w → R c w) (start : Tried 0 w) :
    Virtual.Ends (r.process op) w (fun result w' => match result with
      | .ok a => Q a w'
      | .error _ => Tried (r.maxRetries + 1) w') R :=
  ends_attempts r Tried Q attempt cut r.maxRetries 1 0 w (Nat.zero_add _) start

end Retrier

end Gatehouse
