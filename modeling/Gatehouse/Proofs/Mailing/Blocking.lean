/-
  Gatehouse/Proofs/Mailing/Blocking.lean --- refused mails in front of others.

  Before a relay that refuses some addresses and takes all others, and with saves that
  succeed, a run ends when all the mails that it would fetch next are refused ones: an
  attempt that delivers nothing saves nothing, so the next one fetches the same mails.  A
  mail that is taken is delivered when the refused mails before it do not fill a batch;
  behind a whole batch of them it may never be fetched.

  Main definitions: `Surroundings.Refuses`, `MailRoom.Orderly`, `Dispatcher.Blocked`.
  Main statements: `Dispatcher.ends_runFrom_refusing`, `Dispatcher.delivers_unblocked`,
  `Dispatcher.not_always_delivered`.
-/
import Gatehouse.Proofs.Mailing.Places
import Gatehouse.Proofs.Mailing.Room

set_option autoImplicit false

namespace Gatehouse

/-- Whether a relay always refuses the addresses of a set and always takes all others. -/
def Surroundings.Refuses (S : Surroundings) (refuses : String → Bool) : Prop :=
  ∀ s address subject content,
    (S.receive s address subject content).1.refusal.isSome = refuses address

/-- A relay that bounces mails to one address. -/
def Surroundings.bouncing : Surroundings where
  State := Unit
  receive _ address _ _ :=
    ({ before := 0, refusal := if address = "bad@yas.org" then some (.internal "bounced") else none,
       after := 0 }, ())
  dwell _ := ((0, 0), ())

theorem Surroundings.refuses_bouncing :
    bouncing.Refuses fun address => decide (address = "bad@yas.org") := by
  intro _ address _ _
  by_cases h : address = "bad@yas.org" <;> simp [bouncing, h]

namespace MailRoom

variable {S : Surroundings} {refuses : String → Bool} {w₀ w w₁ w₂ : MailRoom S} {m : Mail}

/-- Whether the relay took a mail. -/
def Took (w : MailRoom S) (m : Mail) : Prop := ∃ a ∈ w.attempts, m.handing true ∈ a.handings

/-- Whether a mail may be marked: it is refused by the relay, or was taken. -/
def MayMark (refuses : String → Bool) (w : MailRoom S) (m : Mail) : Prop :=
  refuses m.address = true ∨ w.Took m

/-- Whether an outbox is not out of order: no batch is planned, and no save is to fail. -/
structure Orderly (w : MailRoom S) : Prop where
  unplanned : w.memory.batches = []
  saves : ∀ fails ∈ w.memory.outages.batchSaves, fails = false

/-- A mail to an address that bounces. -/
def bounced : Mail :=
  { id := some ⟨1⟩, address := "bad@yas.org", subject := "Welcome", content := "Hi",
    mailed := false }

/-- A mail to another address. -/
def welcome : Mail :=
  { id := some ⟨2⟩, address := "ann@yas.org", subject := "Welcome", content := "Hi",
    mailed := false }

/-- A mail that bounces in front of one that does not. -/
def behind : MailRoom .bouncing :=
  { memory := { Memory.empty with mails := [bounced, welcome] }, around := (), attempts := [] }

theorem orderly_behind : behind.Orderly := ⟨rfl, nofun⟩

/-- Whether the mails have kept their places since, and none was marked that the relay
takes and has not taken. -/
structure Since (refuses : String → Bool) (w₀ w : MailRoom S) : Prop extends Orderly w where
  kept : Mail.Kept (MayMark refuses w) w₀.memory.mails w.memory.mails

/-- Whether an attempt was begun since, which has saved nothing. -/
structure Begun (w : MailRoom S) (a : Attempt) (w₁ : MailRoom S) : Prop where
  attempts : w₁.attempts = a :: w.attempts
  mails : w₁.memory.mails = w.memory.mails
  batches : w₁.memory.batches = w.memory.batches
  outages : w₁.memory.outages = w.memory.outages

variable {a : Attempt}

theorem Took.of_attempts (h : w.Took m) (attempts : w₁.attempts = a :: w.attempts) :
    w₁.Took m := by
  obtain ⟨b, hb, htaken⟩ := h
  refine ⟨b, ?_, htaken⟩
  rw [attempts]
  exact List.mem_cons_of_mem a hb

theorem MayMark.of_attempts (h : w.MayMark refuses m) (attempts : w₁.attempts = a :: w.attempts) :
    w₁.MayMark refuses m := by
  rcases h with hrefused | htook
  · exact .inl hrefused
  · exact .inr (htook.of_attempts attempts)

theorem Since.start (orderly : w.Orderly) : Since refuses w w :=
  { orderly with kept := .refl _ _ }

theorem Begun.orderly (begun : w.Begun a w₁) (orderly : w.Orderly) : w₁.Orderly where
  unplanned := begun.batches.trans orderly.unplanned
  saves := by
    rw [begun.outages]
    exact orderly.saves

/-- An attempt that saves nothing leaves the mails as they were. -/
theorem Begun.since (begun : w.Begun a w₁) (since : Since refuses w₀ w) :
    Since refuses w₀ w₁ where
  toOrderly := begun.orderly since.toOrderly
  kept := by
    rw [begun.mails]
    exact since.kept.mono fun m h => h.of_attempts begun.attempts

/-! ## Calls -/

/-- The first pending mails are fetched, which begins an attempt. -/
theorem ends_findPending_orderly (orderly : w.Orderly) (limit : Nat) :
    Virtual.Ends (Outbox.findPending limit : Run S (Except Failure (List Mail))) w
      (fun result w' => result = .ok ((Mail.pending w.memory.mails).take limit)
        ∧ w.Begun (.opening ((Mail.pending w.memory.mails).take limit)) w')
      (fun _ _ => True) := by
  refine ends_lasting (fun _ _ => trivial) fun s => ?_
  refine .bind (.bind (.access (.pure ?_)))
  dsimp only
  rw [Memory.fetch_eq orderly.unplanned]
  exact .bind (.access (.pure ⟨⟨rfl, rfl, rfl, rfl, rfl⟩, fun _ => trivial⟩))

/-- A mail is handed over, and taken unless its address is refused. -/
theorem ends_send_refusing (refusing : S.Refuses refuses) (begun : w.Begun a w₁) (m : Mail) :
    Virtual.Ends (MailTransport.send m.address m.subject m.content :
        Run S (Except Failure Unit)) w₁
      (fun result w' => result.isOk = !refuses m.address
        ∧ w.Begun (a.hand [m.handing (!refuses m.address)]) w')
      (fun _ _ => True) := by
  have hrefusal := refusing w₁.around m.address m.subject m.content
  have htaken : (w₁.offer m.address m.subject m.content).1.refusal.isNone
      = !refuses m.address := by
    rw [← hrefusal, Option.not_isSome]
    rfl
  have hnoted : w.Begun (a.hand [m.handing (!refuses m.address)])
      ((w₁.offer m.address m.subject m.content).2.note
        (·.hand [m.handing (!refuses m.address)])).2 := by
    refine ⟨?_, begun.mails, begun.batches, begun.outages⟩
    rw [note]
    change (w₁.attempts.modifyHead _) = _
    rw [begun.attempts, List.modifyHead_cons]
  refine .bind (.access (.bind (.pause ?_ fun _ _ => trivial)))
  rw [htaken]
  refine .bind (.access (.bind (.pause ?_ fun _ _ => trivial)))
  cases hcase : (w₁.offer m.address m.subject m.content).1.refusal with
  | none =>
    rw [hcase] at htaken
    exact .pure ⟨htaken, hnoted⟩
  | some e =>
    rw [hcase] at htaken
    exact .pure ⟨htaken, hnoted⟩

/-- A batch that is saved marks and adds mails, and nothing else happens. -/
theorem ends_saveBatch_orderly (orderly : w₁.Orderly) (batch : List Mail) :
    Virtual.Ends (Outbox.saveBatch batch : Run S (Except Failure Unit)) w₁
      (fun result w' => result = .ok () ∧ w'.Orderly
        ∧ w'.attempts = w₁.attempts.modifyHead (·.save true)
        ∧ ∃ fresh, w'.memory.mails
          = (batch.zip fresh).foldl (fun l p => Memory.saveMail l p.1 p.2) w₁.memory.mails)
      (fun _ _ => True) := by
  refine ends_lasting (fun _ _ => trivial) fun s => ?_
  refine .bind ((ends_kept_saveBatch (w := { w₁ with around := s }) batch).mono ?_ fun _ _ h => h)
  rintro result w' ⟨attempts, fresh, -, hsave⟩
  have hhead : w₁.memory.outages.batchSaves.head? ≠ some true := by
    intro h
    exact Bool.false_ne_true (orderly.saves true (List.mem_of_head? h)).symm
  rw [Memory.saveBatch] at hsave
  dsimp only at hsave
  rw [if_neg hhead] at hsave
  obtain ⟨rfl, hmemory⟩ := Prod.mk.inj hsave
  refine .bind (.access (.pure ⟨⟨rfl, ⟨?_, ?_⟩, ?_, fresh, ?_⟩, fun _ => trivial⟩))
  · change w'.memory.batches = []
    rw [← hmemory]
    exact orderly.unplanned
  · change ∀ fails ∈ w'.memory.outages.batchSaves, fails = false
    rw [← hmemory]
    exact fun fails h => orderly.saves fails (List.mem_of_mem_tail h)
  · change w'.attempts.modifyHead _ = _
    rw [attempts]
    rfl
  · change w'.memory.mails = _
    rw [← hmemory]

/-- A saved attempt marks no mail that the relay takes unless it was taken: what is marked
is in the batch. -/
theorem Since.saved {k : Nat} {fresh : List Uuid} (since : Since refuses w₀ w)
    (begun : w.Begun ((Attempt.opening ((Mail.pending w.memory.mails).take k)).hand
      (((Mail.pending w.memory.mails).take k).map fun m => m.handing (!refuses m.address))) w₁)
    (orderly : w₂.Orderly) (attempts : w₂.attempts = w₁.attempts.modifyHead (·.save true))
    (mails : w₂.memory.mails
      = ((((Mail.pending w.memory.mails).take k).map fun m => m.given (!refuses m.address)).zip
          fresh).foldl (fun l p => Memory.saveMail l p.1 p.2) w₁.memory.mails) :
    Since refuses w₀ w₂ := by
  rw [begun.attempts, List.modifyHead_cons] at attempts
  refine { orderly with kept := ?_ }
  have hbefore : Mail.Kept (MayMark refuses w₂) w₀.memory.mails w.memory.mails :=
    since.kept.mono fun m h => h.of_attempts attempts
  refine hbefore.trans ?_
  rw [mails, begun.mails]
  refine (Mail.Kept.refl _ _).saveMails _ ?_
  intro p hp _ m hfirst hpending
  obtain ⟨n, hn, hgiven⟩ := List.mem_map.1 (List.of_mem_zip hp).1
  rw [← hgiven, Mail.id_given] at hfirst
  have hbatch := Mail.mem_take_pending hn hfirst hpending
  cases hrefuses : refuses m.address with
  | true => exact .inl hrefuses
  | false =>
    refine .inr ⟨_, by rw [attempts]; exact List.mem_cons_self, ?_⟩
    refine List.mem_append_right _ (List.mem_map.2 ⟨m, hbatch, ?_⟩)
    rw [hrefuses]
    rfl

end MailRoom

namespace Dispatcher

variable {S : Surroundings} {refuses : String → Bool} {w₀ w w₁ : MailRoom S} {a : Attempt}
  (d : Dispatcher)

/-- Every mail of a batch is handed over, and taken unless its address is refused. -/
theorem ends_deliver_refusing (refusing : S.Refuses refuses) (mails : List Mail)
    (begun : w.Begun a w₁) :
    Virtual.Ends (deliver mails : MailRoom.Run S (List Mail × Nat)) w₁
      (fun result w' => result = (mails.map fun m => m.given (!refuses m.address),
          mails.countP fun m => !refuses m.address)
        ∧ w.Begun (a.hand (mails.map fun m => m.handing (!refuses m.address))) w')
      (fun _ _ => True) := by
  induction mails generalizing a w₁ with
  | nil =>
    refine .pure ⟨rfl, ?_⟩
    rwa [List.map_nil, Attempt.hand_nil]
  | cons m mails ih =>
    refine .bind ((MailRoom.ends_send_refusing refusing begun m).mono ?_ fun _ _ h => h)
    rintro result w₂ ⟨hresult, hbegun⟩
    have hrest := ih hbegun
    have hhanded : (a.hand [m.handing (!refuses m.address)]).hand
          (mails.map fun m => m.handing (!refuses m.address))
        = a.hand ((m :: mails).map fun m => m.handing (!refuses m.address)) := by
      rw [Attempt.hand_hand, List.map_cons, List.singleton_append]
    rw [hhanded] at hrest
    cases result with
    | ok _ =>
      have htaken : (!refuses m.address) = true := hresult.symm
      refine .bind (hrest.mono ?_ fun _ _ h => h)
      rintro _ w' ⟨rfl, hbegun'⟩
      refine .pure ⟨?_, hbegun'⟩
      rw [List.map_cons, List.countP_cons, htaken]
      rfl
    | error e =>
      have hrefused : (!refuses m.address) = false := hresult.symm
      refine .bind (.observe (.bind (hrest.mono ?_ fun _ _ h => h)))
      rintro _ w' ⟨rfl, hbegun'⟩
      refine .pure ⟨?_, hbegun'⟩
      rw [List.map_cons, List.countP_cons, hrefused]
      rfl

/-- Whether all the mails that would be fetched next are refused. -/
def Blocked (refuses : String → Bool) (w : MailRoom S) : Prop :=
  ∀ m ∈ (Mail.pending w.memory.mails).take d.batchSize, refuses m.address = true

/-- A batch is saved at once. -/
theorem ends_save_orderly (orderly : w₁.Orderly) (batch : List Mail) :
    Virtual.Ends (d.saveRetrier.process (Outbox.saveBatch batch :
        MailRoom.Run S (Except Failure Unit))) w₁
      (fun result w' => result = .ok () ∧ w'.Orderly
        ∧ w'.attempts = w₁.attempts.modifyHead (·.save true)
        ∧ ∃ fresh, w'.memory.mails
          = (batch.zip fresh).foldl (fun l p => Memory.saveMail l p.1 p.2) w₁.memory.mails)
      (fun _ _ => True) := by
  refine (Retrier.ends_process d.saveRetrier (fun k w' => k = 0 ∧ w' = w₁)
    (fun _ w' => w'.Orderly ∧ w'.attempts = w₁.attempts.modifyHead (·.save true)
      ∧ ∃ fresh, w'.memory.mails
        = (batch.zip fresh).foldl (fun l p => Memory.saveMail l p.1 p.2) w₁.memory.mails)
    ?_ (fun _ _ _ _ => trivial) ⟨rfl, rfl⟩).mono ?_ fun _ _ h => h
  · rintro k w' - ⟨rfl, rfl⟩
    refine (MailRoom.ends_saveBatch_orderly orderly batch).mono ?_ fun _ _ h => h
    rintro result w'' ⟨rfl, hsaved⟩
    exact hsaved
  · intro result w' h
    cases result with
    | ok _ => exact ⟨rfl, h⟩
    | error e => exact absurd h.1 (Nat.succ_ne_zero _)

/-- An attempt at a cycle saves what it delivers.  It fails, or finds nothing, only when
all the mails that it would fetch are refused. -/
theorem ends_process_refusing (refusing : S.Refuses refuses) (since : w₀.Since refuses w) :
    Virtual.Ends (d.process : MailRoom.Run S (Except Failure CycleOutcome)) w
      (fun result w' => w₀.Since refuses w'
        ∧ ((∃ delivered failed, result = .ok (.delivered delivered failed))
          ∨ d.Blocked refuses w'))
      (fun _ _ => True) := by
  have hblocked : ∀ {a w'}, w.Begun a w' →
      (∀ m ∈ (Mail.pending w.memory.mails).take d.batchSize, refuses m.address = true) →
      d.Blocked refuses w' := by
    intro a w' begun hall m hm
    rw [begun.mails] at hm
    exact hall m hm
  unfold process
  refine .bind ((MailRoom.ends_findPending_orderly since.toOrderly d.batchSize).mono ?_
    fun _ _ h => h)
  rintro _ w₁ ⟨rfl, begun⟩
  generalize hbatch : (Mail.pending w.memory.mails).take d.batchSize = batch at begun hblocked
  cases batch with
  | nil => exact .pure ⟨begun.since since, .inr (hblocked begun nofun)⟩
  | cons m mails =>
    refine .bind ((ends_deliver_refusing refusing (m :: mails) begun).mono ?_ fun _ _ h => h)
    rintro _ w₂ ⟨rfl, begun'⟩
    dsimp only
    split
    · rename_i hcount
      -- no mail of the batch was taken
      have hall : ∀ n ∈ m :: mails, refuses n.address = true := by
        intro n hn
        simpa using List.countP_eq_zero.1 hcount n hn
      exact .pure ⟨begun'.since since, .inr (hblocked begun' hall)⟩
    · refine .bind ((d.ends_save_orderly (begun'.orderly since.toOrderly) _).mono ?_
        fun _ _ h => h)
      rintro _ w₃ ⟨rfl, orderly, attempts, fresh, saved⟩
      rw [← hbatch] at begun' saved
      have hsince := since.saved begun' orderly attempts saved
      exact .bind (.log (.pure ⟨hsince, .inl ⟨_, _, rfl⟩⟩))

/-- The attempts of a cycle end likewise: a failed one leaves the mails that it fetched
where they were, and the next one fetches them again. -/
theorem ends_retries_refusing (refusing : S.Refuses refuses) (since : w₀.Since refuses w) :
    Virtual.Ends (d.processRetrier.process d.process :
        MailRoom.Run S (Except Failure CycleOutcome)) w
      (fun result w' => w₀.Since refuses w'
        ∧ ((∃ delivered failed, result = .ok (.delivered delivered failed))
          ∨ d.Blocked refuses w'))
      (fun _ _ => True) := by
  refine (Retrier.ends_process d.processRetrier
    (fun k w' => w₀.Since refuses w' ∧ (k ≠ 0 → d.Blocked refuses w'))
    (fun outcome w' => w₀.Since refuses w'
      ∧ ((∃ delivered failed, outcome = .delivered delivered failed) ∨ d.Blocked refuses w'))
    ?_ (fun _ _ _ _ => trivial) ⟨since, fun h => absurd rfl h⟩).mono ?_ fun _ _ h => h
  · rintro k w₁ - ⟨since₁, -⟩
    refine (d.ends_process_refusing refusing since₁).mono ?_ fun _ _ h => h
    rintro result w₂ ⟨since₂, hend⟩
    cases result with
    | ok outcome =>
      refine ⟨since₂, hend.imp_left ?_⟩
      rintro ⟨delivered, failed, h⟩
      exact ⟨delivered, failed, Except.ok.inj h⟩
    | error e =>
      refine ⟨since₂, fun _ => hend.resolve_left ?_⟩
      rintro ⟨delivered, failed, h⟩
      cases h
  · intro result w₁ h
    cases result with
    | ok outcome =>
      refine ⟨h.1, h.2.imp_left ?_⟩
      rintro ⟨delivered, failed, rfl⟩
      exact ⟨delivered, failed, rfl⟩
    | error e => exact ⟨h.1, .inr (h.2 (Nat.succ_ne_zero _))⟩

/-- A cycle ends likewise, unless it overruns its deadline. -/
theorem ends_cycle_refusing (refusing : S.Refuses refuses) (since : w₀.Since refuses w) :
    Virtual.Ends (d.cycle : MailRoom.Run S (Except Failure CycleOutcome)) w
      (fun result w' => result = .error (.mailing (.timeout d.processTimeout))
        ∨ w₀.Since refuses w'
          ∧ ((∃ delivered failed, result = .ok (.delivered delivered failed))
            ∨ d.Blocked refuses w'))
      (fun _ _ => True) := by
  unfold cycle
  refine .bind (.within ((d.ends_retries_refusing refusing since).mono ?_ ?_))
  · intro result w' h
    exact .pure (.inr h)
  · intro c w' _
    split
    · exact .pure (.inl rfl)
    · trivial

/-- Whether a run was given up: a cycle overran its deadline, or the program was asked to
stop. -/
def givenUp : Except Failure DispatchReport → Bool
  | .error (.mailing (.timeout _)) => true
  | .error (.mailing (.cancelled _ _ _)) => true
  | _ => false

/-- A run that is not given up ends when all the mails that it would fetch next are
refused. -/
theorem ends_runFrom_refusing (refusing : S.Refuses refuses) (fuel : Nat) (r : DispatchReport)
    (since : w₀.Since refuses w) :
    Virtual.Ends (d.runFrom fuel r :
        MailRoom.Run S (Option (Except Failure DispatchReport))) w
      (fun answer w' => ∀ result, answer = some result → givenUp result = false →
        w₀.Since refuses w' ∧ d.Blocked refuses w')
      (fun _ _ => True) := by
  have hcancelled : ∀ (r : DispatchReport) (w₁ : MailRoom S),
      Virtual.Ends (some <$> cancelled r :
          MailRoom.Run S (Option (Except Failure DispatchReport))) w₁
        (fun answer w' => ∀ result, answer = some result → givenUp result = false →
          w₀.Since refuses w' ∧ d.Blocked refuses w')
        (fun _ _ => True) := by
    intro r w₁
    refine .map (.bind (.log (.pure ?_)))
    rintro result ⟨⟩ hgiven
    cases hgiven
  induction fuel generalizing r w with
  | zero => exact .pure nofun
  | succ fuel ih =>
    rw [runFrom]
    refine .bind (.unlessStopped (hcancelled r w)
      ((d.ends_cycle_refusing refusing since).mono ?_ ?_))
    · intro result w₁ hend
      match result, hend with
      | .error e, hend =>
        refine .pure ?_
        rintro _ ⟨⟩ hgiven
        rcases hend with hlate | ⟨since₁, ⟨_, _, h⟩ | hblocked⟩
        · cases hlate
          cases hgiven
        · cases h
        · exact ⟨since₁, hblocked⟩
      | .ok .drained, hend =>
        refine .bind (.log (.pure ?_))
        rintro _ ⟨⟩ -
        rcases hend with hlate | ⟨since₁, ⟨_, _, h⟩ | hblocked⟩
        · cases hlate
        · cases h
        · exact ⟨since₁, hblocked⟩
      | .ok (.delivered delivered failed), hend =>
        rcases hend with hlate | ⟨since₁, -⟩
        · cases hlate
        · refine .bind (.unlessStopped (hcancelled _ w₁) (.pause (ih _ since₁) ?_))
          intro c _
          split
          · exact hcancelled _ w₁
          · trivial
    · intro c w₁ _
      split
      · exact hcancelled r w₁
      · trivial

/-- A run that is not given up has delivered every mail that the relay takes and that stands
behind fewer refused mails than a batch holds. -/
theorem delivers_unblocked {rt rt' : Runtime (MailRoom S)} {fuel : Nat}
    {result : Except Failure DispatchReport} {before after : List Mail} {m : Mail}
    (refusing : S.Refuses refuses) (orderly : rt.world.Orderly)
    (ended : Virtual.runOn (d.run fuel) rt = (.ok (some result), rt'))
    (patient : givenUp result = false) (place : rt.world.memory.mails = before ++ m :: after)
    (unmailed : m.mailed = false) (deliverable : refuses m.address = false)
    (few : before.countP (fun b => !b.mailed && refuses b.address) < d.batchSize) :
    rt'.world.Took m ∧ rt'.world.memory.mails[before.length]? = some m.markMailed := by
  have hend := d.ends_runFrom_refusing refusing fuel
    { cycles := 0, delivered := 0, failed := 0 } (.start orderly)
  obtain ⟨answer, rt₁, hrun, -, -, hanswer⟩ := hend rt rfl
  obtain ⟨rfl, rfl⟩ := Prod.mk.inj (hrun.symm.trans ended)
  obtain ⟨since, blocked⟩ := hanswer result rfl patient
  have hkept : Mail.Kept (rt₁.world.MayMark refuses) (before ++ m :: after)
      rt₁.world.memory.mails := by
    rw [← place]
    exact since.kept
  have hblocked : ∀ n ∈ (Mail.pending rt₁.world.memory.mails).take d.batchSize,
      refuses n.address = true := blocked
  obtain ⟨hplace, hreason⟩ := hkept.marked_of_blocked hblocked deliverable few unmailed
  refine ⟨?_, hplace⟩
  rcases hreason with hrefused | htook
  · rw [deliverable] at hrefused
    cases hrefused
  · exact htook

/-- A dispatcher that makes no second attempt. -/
def strict (batchSize : Nat) : Dispatcher where
  delay := 300
  processTimeout := 60000
  batchSize := batchSize
  processRetrier := { operation := "process mails", maxRetries := 0, delay := 500 }
  saveRetrier := { operation := "save mails", maxRetries := 0, delay := 500 }

theorem exists_ended {act : MailRoom.Run S (Option (Except Failure DispatchReport))}
    {rt : Runtime (MailRoom S)}
    (h : ((act.runOn rt).1.toOption.bind id).map givenUp = some false) :
    ∃ result, act.runOn rt = (.ok (some result), (act.runOn rt).2) ∧ givenUp result = false := by
  rcases hrun : act.runOn rt with ⟨_ | _ | result, rt'⟩
  · rw [hrun] at h
    cases h
  · rw [hrun] at h
    cases h
  · rw [hrun] at h
    exact ⟨result, rfl, Option.some.inj h⟩

/-- A batch of two holds the refused mail and the one behind it. -/
theorem delivers_unblocked_behind :
    ∃ result rt', Virtual.runOn ((strict 2).run 2) (Runtime.new .counting MailRoom.behind)
        = (.ok (some result), rt')
      ∧ givenUp result = false ∧ rt'.world.Took MailRoom.welcome
      ∧ rt'.world.memory.mails[1]? = some MailRoom.welcome.markMailed := by
  obtain ⟨result, ended, patient⟩ : ∃ result,
      Virtual.runOn ((strict 2).run 2) (Runtime.new .counting MailRoom.behind)
          = (.ok (some result), _)
        ∧ givenUp result = false := exists_ended (by decide +kernel)
  have hfew : [MailRoom.bounced].countP (fun b => !b.mailed && decide (b.address = "bad@yas.org"))
      < (strict 2).batchSize := by decide
  refine ⟨result, _, ended, patient, ?_⟩
  exact delivers_unblocked (strict 2) Surroundings.refuses_bouncing MailRoom.orderly_behind
    ended patient rfl rfl (by decide) hfew

/-- A batch of one holds only the refused mail, and the run ends with it. -/
theorem not_always_delivered :
    ¬ ∀ (S : Surroundings) (refuses : String → Bool) (d : Dispatcher)
        (rt rt' : Runtime (MailRoom S)) (fuel : Nat) (result : Except Failure DispatchReport),
      S.Refuses refuses → 1 ≤ d.batchSize → rt.world.Orderly →
      Virtual.runOn (d.run fuel) rt = (.ok (some result), rt') → givenUp result = false →
      ∀ m ∈ rt.world.memory.mails, m.mailed = false → refuses m.address = false →
        rt'.world.Took m := by
  intro h
  obtain ⟨result, ended, patient⟩ : ∃ result,
      Virtual.runOn ((strict 1).run 1) (Runtime.new .counting MailRoom.behind)
          = (.ok (some result), _)
        ∧ givenUp result = false := exists_ended (by decide +kernel)
  have hnone : ∀ a ∈ (Virtual.runOn ((strict 1).run 1)
      (Runtime.new .counting MailRoom.behind)).2.world.attempts,
      MailRoom.welcome.handing true ∉ a.handings := by decide +kernel
  obtain ⟨a, ha, htaken⟩ := h .bouncing _ (strict 1) _ _ 1 result Surroundings.refuses_bouncing
    (Nat.le_refl 1) MailRoom.orderly_behind ended patient MailRoom.welcome (by decide) rfl
    (by decide)
  exact hnone a ha htaken

end Dispatcher

end Gatehouse
