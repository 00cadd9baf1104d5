/-
  Gatehouse/Proofs/Account/Atomicity.lean --- a workflow that fails changes nothing.

  Whatever the stores hold, whichever of them are out of order, and whatever the hasher
  and the link settings are, a workflow that answers with a failure leaves the stores as
  they were, the mails in their order included.  The one condition is that the ids and
  tokens drawn on the way are not in use already.

  Main statement: `AccountCall.memory_eq_of_error`.
-/
import Gatehouse.Proofs.Account.Outcome

set_option autoImplicit false

namespace Gatehouse

namespace AccountCall

/-- A call that is given up or answers with a failure leaves the stores as they were. -/
theorem memory_eq_of_not_ok (s : AccountService) (call : AccountCall) {rt rt' : Runtime Premises}
    {r : Except Cut (Except Failure AccountAnswer)} (fresh : DrawsUnused (call.run s).run rt)
    (h : (call.run s).run.runOn rt = (r, rt')) (hr : ∀ answer, r ≠ .ok (.ok answer)) :
    rt'.world.memory = rt.world.memory := by
  have hends := call.ends s fresh
  rw [h] at hends
  cases hends with
  | givenUp same => exact same
  | failed same => exact same
  | succeeded fits => exact absurd rfl (hr _)

/-- A call that answers with a failure leaves the stores as they were. -/
theorem memory_eq_of_error (s : AccountService) (call : AccountCall) {rt rt' : Runtime Premises}
    {e : Failure} (fresh : DrawsUnused (call.run s).run rt)
    (failed : (call.run s).run.runOn rt = (.ok (.error e), rt')) :
    rt'.world.memory = rt.world.memory := by
  refine call.memory_eq_of_not_ok s fresh failed ?_
  intro answer h
  cases h

/-- Stores that cannot keep activations, with a user and a mail in them. -/
def unkept : Runtime Premises :=
  let broken := Premises.plain { Outages.none with activationSaves := true }
  let ada := (User.new "Ada" "ada@yas.org" "#one").kept ⟨0xada#128⟩
  .new .counting { broken with
    memory := (broken.memory.keepUser ⟨0xada#128⟩ ada).queue (Mail.new ada.email "Welcome" "Hi") }

/-- A registration whose activation cannot be kept there. -/
def unkeptSignup : Premises.Run (Except Failure AccountAnswer) :=
  ((signup { name := "Bob", email := "bob@yas.org", password := "two" }).run .plain).run

/-- The user that was kept before the activation failed is gone again. -/
theorem memory_eq_of_error_unkept :
    DrawsUnused unkeptSignup unkept
      ∧ ∃ e rt', unkeptSignup.runOn unkept = (.ok (.error e), rt')
        ∧ rt'.world.memory = unkept.world.memory := by
  have fresh : DrawsUnused unkeptSignup unkept := by
    have drawn : (unkeptSignup.runOn unkept).2.entropy.drawn = 3 := by decide +kernel
    have ids : ∀ n < 3, unkept.world.memory.users.get? (unkept.entropy.idAt n) = none := by
      decide +kernel
    intro n _ hn
    rw [drawn] at hn
    exact ⟨ids n hn, fun kind => by cases kind <;> rfl⟩
  have failed : (unkeptSignup.runOn unkept).1.toOption.map Except.toOption = some none := by
    decide +kernel
  generalize hrun : unkeptSignup.runOn unkept = run at failed
  rcases run with ⟨_ | e | _, rt'⟩
  · cases failed
  · exact ⟨fresh, e, rt', rfl, memory_eq_of_error .plain _ fresh hrun⟩
  · cases failed

end AccountCall

end Gatehouse
