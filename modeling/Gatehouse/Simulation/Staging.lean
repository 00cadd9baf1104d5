/-
  Gatehouse/Simulation/Staging.lean --- the service on stores kept in memory.

  The workflows run in virtual time on a `Memory`.  The relay refuses some addresses,
  the hash of a password is the password behind a mark, and no token is ever revoked.
  Generated ids and tokens are given labels as they appear in the stores.

  Main definitions: `Staging`, `Staging.Run`, `Staging.labelled`.
-/
import Gatehouse.Simulation.Rehearsal
import Gatehouse.Store.Collaborators

set_option autoImplicit false

namespace Gatehouse

/-- The stores and what is around them. -/
structure Staging where
  memory : Memory
  /-- The addresses that the relay refuses. -/
  refused : List String
  signer : JwtSigner
  deriving Inhabited

namespace Staging

/-- Stores with planned batches, a relay that takes every mail, and a signer. -/
def new (batches : List (List Mail)) (signer : JwtSigner) : Staging :=
  { memory := { Memory.empty with batches }, refused := [], signer }

/-- A run on stores kept in memory. -/
abbrev Run := Virtual Staging

/-! ## Collaborators -/

instance : MonadStateOf Memory Run where
  get := do return (← Virtual.world).memory
  set s := Virtual.modifyWorld fun w => { w with memory := s }
  modifyGet act := modifyGet fun rt =>
    let (value, memory) := act rt.world.memory
    (value, { rt with world := { rt.world with memory } })

instance : MailTransport Run where
  send address _ _ := do
    if (← Virtual.world).refused.contains address then
      pure (.error (.internal ("relay refused " ++ address)))
    else pure (.ok ())

instance : PasswordHasher Run where
  hash password := pure (Rehearsal.playedHash password)
  verify password hash := pure (hash == Rehearsal.playedHash password)

instance : RevocationStore Run where
  put _ _ := pure ()
  denies _ := pure false

instance : TokenSigner Run where
  sign claims := do return (← ExceptT.lift Virtual.world).signer.sign claims
  verify token := do (← ExceptT.lift Virtual.world).signer.verify token

/-! ## Planned mails and outages -/

/-- A mail of a planned batch. -/
def plannedMail {m : Type → Type} [Monad m] [MonadRandom m] (address : String) : m Mail := do
  let id ← freshId
  pure { Mail.new address "Subject" "<p>Body</p>" with id := some id }

/-- The outages with one of them set, by name; the saves of batches fail `times` times
from then on. -/
def setOutage? (o : Outages) (name : String) (on : Bool) (times : Nat) : Option Outages :=
  match name with
  | "users.reads" => some { o with userReads := on }
  | "users.save" => some { o with userSaves := on }
  | "activations.save" => some { o with activationSaves := on }
  | "activations.delete" => some { o with activationDeletes := on }
  | "recoveries.save" => some { o with recoverySaves := on }
  | "mails.enqueue" => some { o with mailQueue := on }
  | "mails.save" => some { o with batchSaves := List.replicate times true }
  | _ => none

/-! ## Labels -/

/-- The tokens that some credentials have and others have not. -/
def newTokens (earlier later : Table String Credential) : List String :=
  (later.entries.map Prod.fst).filter fun token => (earlier.get? token).isNone

/-- The labels after the stores changed: users and mails have one each, and if tokens
were generated, so have the new tokens. -/
def labelled (generates : Bool) (earlier later : Memory) (ls : Labels) : Labels :=
  let users := later.users.entries.map fun e => e.1.text
  let mails := (later.mails ++ later.batches.flatten).filterMap fun m => m.id.map Uuid.text
  let ls := users.foldl (fun ls id => ls.add .user id) ls
  let ls := mails.foldl (fun ls id => ls.add .mail id) ls
  if generates then
    let ls := (newTokens earlier.activations later.activations).foldl
      (fun ls token => ls.add .activation token) ls
    (newTokens earlier.recoveries later.recoveries).foldl
      (fun ls token => ls.add .recovery token) ls
  else ls

end Staging

end Gatehouse
