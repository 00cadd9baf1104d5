/-
  Gatehouse/Proofs/Relay/Carrying.lean --- what becomes of a batch of mails.

  The relay may answer anything, after any time, and each answer may depend on what was
  posted before.  A carrier that leads to a relay marks exactly the mails whose request was
  posted and answered in time with success.  The log marks every mail and posts nothing.

  Main definitions: `Postbox`, `Posting.isTaken`, `Carried`, `MailCarrier.deliver`.
  Main statements: `Posting.isTaken_iff`, `MailCarrier.ends_deliver_toRelay`,
  `MailCarrier.ends_deliver_toLog`.
-/
import Gatehouse.Proofs.Ending
import Gatehouse.Relay.Carrier

set_option autoImplicit false

namespace Gatehouse

/-! ## A relay that may answer anything -/

/-- A request with the answer of the relay. -/
structure Posting where
  request : RelayRequest
  /-- After how many milliseconds the answer is there. -/
  delay : Nat
  answer : Except RelaySilence RelayAnswer

namespace Posting

/-- What is heard of the answer. -/
def heard (p : Posting) : Except RelaySilence RelayAnswer := p.request.heard p.delay p.answer

/-- Whether the relay is known to have taken what was posted. -/
def isTaken (p : Posting) : Bool :=
  match p.heard with
  | .ok a => a.status.isSuccess
  | .error _ => false

/-- A mail is known to be taken when success is answered in time. -/
theorem isTaken_iff (p : Posting) : p.isTaken = true ↔
    p.delay < p.request.timeout * 1000
      ∧ ∃ a, p.answer = .ok a ∧ a.status.isSuccess = true := by
  rw [isTaken, heard, RelayRequest.heard]
  by_cases intime : p.delay < p.request.timeout * 1000
  · rw [if_pos intime, and_iff_right intime]
    cases p.answer with
    | error s => exact iff_of_false Bool.false_ne_true nofun
    | ok a => exact ⟨fun success => ⟨a, rfl, success⟩, fun ⟨_, rfl, success⟩ => success⟩
  · rw [if_neg intime]
    exact iff_of_false Bool.false_ne_true fun h => intime h.1

end Posting

/-- What was posted so far, and how the relay answers a request after that: in how many
milliseconds, and what. -/
structure Postbox where
  answers : List Posting → RelayRequest → Nat × Except RelaySilence RelayAnswer
  posted : List Posting

namespace Postbox

/-- A request with the answer that it is given. -/
def posting (w : Postbox) (r : RelayRequest) : Posting :=
  ⟨r, (w.answers w.posted r).1, (w.answers w.posted r).2⟩

/-- The relay after a request. -/
def after (w : Postbox) (r : RelayRequest) : Postbox :=
  { w with posted := w.posted ++ [w.posting r] }

instance : MonadRelay (Virtual Postbox) where
  post r := Virtual.access fun w => ((w.posting r).heard, w.after r)

end Postbox

/-! ## One mail -/

/-- The request for a mail. -/
def HttpTransport.requestFor (t : HttpTransport) (m : Mail) : Except RelayFault RelayRequest :=
  t.request m.address m.subject m.content

/-- How handing over a mail to a relay ends. -/
inductive HandedOver (t : HttpTransport) (m : Mail) (w : Postbox) :
    Except Failure Unit → Postbox → Prop
  /-- There is no request for the mail, and nothing is posted. -/
  | unsent {f : RelayFault} (unmade : t.requestFor m = .error f) (e : Failure) :
      HandedOver t m w (.error e) w
  /-- The relay does not answer with success. -/
  | refused {r : RelayRequest} (made : t.requestFor m = .ok r)
      (untaken : (w.posting r).isTaken = false) (e : Failure) :
      HandedOver t m w (.error e) (w.after r)
  /-- The relay has taken the mail. -/
  | taken {r : RelayRequest} (made : t.requestFor m = .ok r)
      (taken : (w.posting r).isTaken = true) : HandedOver t m w (.ok ()) (w.after r)

namespace HttpTransport

/-- What an answer of the relay, or its silence, means for the mail. -/
def verdict (r : RelayRequest) : Except RelaySilence RelayAnswer → Except AdapterFault Unit
  | .error s => .error (.http (RelayFault.silent r.url s).message)
  | .ok a =>
      if a.status.isSuccess then .ok ()
      else .error (.mail ("relay responded " ++ a.status.text ++ ": " ++ a.body))

variable (t : HttpTransport) (w : Postbox)

theorem run_post {m : Mail} {r : RelayRequest} (made : t.requestFor m = .ok r) :
    (t.post m.address m.subject m.content : ExceptT AdapterFault (Virtual Postbox) Unit).run
      = MonadRelay.post r >>= fun answer => pure (verdict r answer) := by
  have made : t.request m.address m.subject m.content = .ok r := made
  rw [post, made]
  dsimp only
  rw [ExceptT.run_bind_lift]
  refine congrArg (Bind.bind _) (funext fun answer => ?_)
  cases answer with
  | error s => rfl
  | ok a =>
    dsimp only
    rw [verdict]
    cases a.status.isSuccess with
    | true => rfl
    | false => rfl

theorem ends_post (m : Mail) :
    Virtual.Ends (t.post m.address m.subject m.content :
        ExceptT AdapterFault (Virtual Postbox) Unit).run w
      (fun r w' => HandedOver t m w (r.mapError AdapterFault.toFailure) w') fun _ _ => False := by
  cases made : t.requestFor m with
  | error f =>
    have hpost : t.request m.address m.subject m.content = .error f := made
    rw [post, hpost]
    exact .pure (.unsent made _)
  | ok r =>
    rw [t.run_post made]
    refine .bind (.access (.pure ?_))
    cases hanswer : (w.posting r).heard with
    | error s =>
      refine .refused made ?_ _
      rw [Posting.isTaken, hanswer]
    | ok a =>
      cases hsuccess : a.status.isSuccess with
      | true =>
        dsimp only
        rw [verdict, hsuccess]
        exact .taken made (by rw [Posting.isTaken, hanswer]; exact hsuccess)
      | false =>
        dsimp only
        rw [verdict, hsuccess]
        exact .refused made (by rw [Posting.isTaken, hanswer]; exact hsuccess) _

theorem ends_send (m : Mail) :
    Virtual.Ends (t.send m.address m.subject m.content : Virtual Postbox (Except Failure Unit)) w
      (HandedOver t m w) fun _ _ => False := by
  rw [send]
  refine .bind ((t.ends_post w m).mono ?_ fun _ _ => id)
  rintro (f | ⟨⟩) w' handed
  · exact .bind (.log (.pure handed))
  · exact .bind (.log (.pure handed))

end HttpTransport

/-! ## A batch -/

/-- The mails of a batch in a relay's hands: what was posted of them, and the mails as they
are afterwards. -/
inductive Carried (t : HttpTransport) : List Mail → List Posting → List Mail → Prop
  | nothing : Carried t [] [] []
  /-- There is no request for the first mail. -/
  | unsent {m : Mail} {mails batch : List Mail} {posts : List Posting} {f : RelayFault}
      (unmade : t.requestFor m = .error f) (rest : Carried t mails posts batch) :
      Carried t (m :: mails) posts (m :: batch)
  /-- The first mail was posted, and the relay has not taken it. -/
  | refused {m : Mail} {mails batch : List Mail} {posts : List Posting} {p : Posting}
      (made : t.requestFor m = .ok p.request) (untaken : p.isTaken = false)
      (rest : Carried t mails posts batch) : Carried t (m :: mails) (p :: posts) (m :: batch)
  /-- The first mail was posted, and the relay has taken it. -/
  | taken {m : Mail} {mails batch : List Mail} {posts : List Posting} {p : Posting}
      (made : t.requestFor m = .ok p.request) (taken : p.isTaken = true)
      (rest : Carried t mails posts batch) :
      Carried t (m :: mails) (p :: posts) (m.markMailed :: batch)

namespace MailCarrier

/-- Delivers a batch through a carrier. -/
def deliver (carrier : MailCarrier) (mails : List Mail) : Virtual Postbox (List Mail × Nat) :=
  (Dispatcher.deliver mails : ReaderT MailCarrier (Virtual Postbox) (List Mail × Nat)).run carrier

/-- Hands one mail to a carrier. -/
def send (carrier : MailCarrier) (m : Mail) : Virtual Postbox (Except Failure Unit) :=
  (MailTransport.send m.address m.subject m.content :
    ReaderT MailCarrier (Virtual Postbox) (Except Failure Unit)).run carrier

section

variable {carrier : MailCarrier} {m : Mail} {mails : List Mail} {w : Postbox}

theorem deliver_cons : deliver carrier (m :: mails) = send carrier m >>= fun r => match r with
    | .ok () => deliver carrier mails >>= fun rest => pure (m.markMailed :: rest.1, rest.2 + 1)
    | .error e => observeError "mail error" e [("mail_id", m.logId)] >>= fun _ =>
        deliver carrier mails >>= fun rest => pure (m :: rest.1, rest.2) := by
  refine congrArg (send carrier m >>= ·) (funext fun r => ?_)
  rcases r with e | ⟨⟩
  · rfl
  · rfl

/-- The first mail of a batch is marked if it is accepted; the others follow either way. -/
theorem ends_deliver_cons {Q : List Mail × Nat → Postbox → Prop} {R : Cut → Postbox → Prop}
    (h : Virtual.Ends (send carrier m) w (fun r w' => match r with
      | .ok _ => Virtual.Ends (deliver carrier mails) w'
          (fun result => Q (m.markMailed :: result.1, result.2 + 1)) R
      | .error _ => Virtual.Ends (deliver carrier mails) w'
          (fun result => Q (m :: result.1, result.2)) R) R) :
    Virtual.Ends (deliver carrier (m :: mails)) w Q R := by
  rw [deliver_cons]
  refine .bind (h.mono ?_ fun _ _ => id)
  rintro (e | ⟨⟩) w' rest
  · exact .bind (.observe (.bind (rest.mono (fun _ _ last => .pure last) fun _ _ => id)))
  · exact .bind (rest.mono (fun _ _ last => .pure last) fun _ _ => id)

end

variable (w : Postbox)

/-- The log takes every mail, and nothing is posted. -/
theorem ends_deliver_toLog (mails : List Mail) :
    Virtual.Ends (deliver .toLog mails) w
      (fun result w' => result = (mails.map Mail.markMailed, mails.length) ∧ w' = w)
      fun _ _ => False := by
  induction mails with
  | nil => exact .pure ⟨rfl, rfl⟩
  | cons m mails ih =>
    have accepted : ∀ {Q : Except Failure Unit → Postbox → Prop}, Q (.ok ()) w →
        Virtual.Ends (send .toLog m) w Q fun _ _ => False := by
      intro Q h
      change Virtual.Ends (sendToLog m.address m.subject m.content) w Q _
      exact .bind (.log (.pure h))
    refine ends_deliver_cons (accepted (ih.mono ?_ fun _ _ => id))
    rintro _ w' ⟨rfl, rfl⟩
    exact ⟨rfl, rfl⟩

/-- Through a relay the marked mails are those that it has taken. -/
theorem ends_deliver_toRelay (t : HttpTransport) (mails : List Mail) :
    Virtual.Ends (deliver (.toRelay t) mails) w
      (fun result w' => ∃ posts, w'.posted = w.posted ++ posts ∧ Carried t mails posts result.1
        ∧ result.2 = posts.countP Posting.isTaken)
      fun _ _ => False := by
  induction mails generalizing w with
  | nil => exact .pure ⟨[], (List.append_nil _).symm, .nothing, rfl⟩
  | cons m mails ih =>
    refine ends_deliver_cons ((t.ends_send w m).mono ?_ fun _ _ => id)
    intro r w₁ handed
    cases handed with
    | unsent unmade e =>
      refine (ih w).mono ?_ fun _ _ => id
      rintro ⟨batch, count⟩ w₂ ⟨posts, hposted, carried, hcount⟩
      exact ⟨posts, hposted, .unsent unmade carried, hcount⟩
    | @refused q made untaken e =>
      refine (ih (w.after q)).mono ?_ fun _ _ => id
      rintro ⟨batch, count⟩ w₂ ⟨posts, hposted, carried, hcount⟩
      refine ⟨w.posting q :: posts, ?_, .refused made untaken carried, ?_⟩
      · rw [hposted, Postbox.after, List.append_assoc, List.singleton_append]
      · rw [List.countP_cons_of_neg (by rw [untaken]; exact Bool.false_ne_true)]
        exact hcount
    | @taken q made taken =>
      refine (ih (w.after q)).mono ?_ fun _ _ => id
      rintro ⟨batch, count⟩ w₂ ⟨posts, hposted, carried, hcount⟩
      refine ⟨w.posting q :: posts, ?_, .taken made taken carried, ?_⟩
      · rw [hposted, Postbox.after, List.append_assoc, List.singleton_append]
      · rw [List.countP_cons_of_pos taken]
        exact congrArg Nat.succ hcount

end MailCarrier

end Gatehouse
