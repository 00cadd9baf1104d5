/-
  Gatehouse/Account/Service.lean --- the account workflows.

  Signup, activation, login, logout, renewal and password recovery.  A workflow
  that writes does so in one unit of work of its own, which is committed when every
  step succeeded and rolled back otherwise.  Nothing secret is logged: an address
  appears masked, passwords, hashes and tokens not at all.

  Main definitions: `AccountService`, with `signup`, `activate`, `login`,
  `logout`, `createRecovery` and `recoverPassword`.
-/
import Gatehouse.Account.Input
import Gatehouse.Mailing.Outbox
import Gatehouse.Mailing.Template
import Gatehouse.Session.Service

set_option autoImplicit false

namespace Gatehouse

/-! ## Collaborators -/

/-- The store of users. -/
class UserStore (m : Type → Type) (K : outParam UnitKinds) where
  existsByEmail : String → ExceptT Failure m Bool
  findById : Uuid → ExceptT Failure m (Option User)
  findByEmail : String → ExceptT Failure m (Option User)
  /-- Inserts a user without an id and returns it with one; of a stored user the
  password hash is kept. -/
  save : User → Step K m User
  activate : Uuid → Step K m Unit

/-- The stores of pending credentials. -/
class CredentialStore (m : Type → Type) (K : outParam UnitKinds) where
  find : CredentialKind → String → ExceptT Failure m (Option Credential)
  save : CredentialKind → Credential → Step K m Unit
  delete : CredentialKind → String → Step K m Unit

/-- Hashing of passwords. -/
class PasswordHasher (m : Type → Type) where
  hash : String → ExceptT Failure m String
  verify : (password hash : String) → ExceptT Failure m Bool

/-! ## The service -/

/-- Links and tokens of the service. -/
structure AccountService where
  config : AccountConfig
  tokens : TokenService
  deriving DecidableEq, Repr, Inhabited

namespace AccountService

/-- The id of a user that was read from the store. -/
def storedId {m : Type → Type} [Monad m] (u : User) : ExceptT Failure m Uuid :=
  match u.id with
  | some id => pure id
  | none => throw (.internal "Stored user has no ID")

variable {m : Type → Type} [Monad m] [MonadLog m] [MonadRandom m] {K : UnitKinds}

/-- A new credential for a user. -/
def freshCredential (user : Uuid) : m Credential := do
  let token ← freshToken
  pure { token, userId := user }

section

variable [UserStore m K] [CredentialStore m K] [MailQueue m K] [UnitActions m K]

section

variable [PasswordHasher m]

/-- The writes of a signup: the user, its activation, and the mail with the link. -/
def register (s : AccountService) (input : SignupInput) : Step K m User := do
  let hash ← Step.lift (PasswordHasher.hash input.password)
  let user ← UserStore.save (User.new input.name input.email hash)
  let id ← Step.lift (storedId user)
  let activation ← Step.lift (ExceptT.lift (freshCredential id))
  CredentialStore.save .activation activation
  let mail ← liftExcept (activationMail user.email s.config.activationUrl activation.token)
  enqueueMail mail
  pure user
where
  /-- A result that needs no collaborator. -/
  liftExcept {α : Type} (r : Except Failure α) : Step K m α := ExceptT.mk (pure r)

/-- Registers an account that is not active, and queues its activation mail. -/
def signup (s : AccountService) (input : SignupInput) : ExceptT Failure m User := do
  if ← UserStore.existsByEmail input.email then throw (.auth .emailAlreadyTaken)
  else do
    let user ← UnitOfWork.perform (s.register input)
    ExceptT.lift (logInfo .accounts "User signed up"
      [("user_id", .text (match user.id with
        | some id => "Some(" ++ id.text ++ ")"
        | none => "None")),
        ("email", .text (Email.mask user.email))])
    pure user

end

/-- The writes of an activation. -/
def consumeActivation (activation : Credential) : Step K m Unit := do
  UserStore.activate activation.userId
  CredentialStore.delete .activation activation.token

/-- Activates the account behind an activation token, which is used up. -/
def activate (token : String) : ExceptT Failure m Unit := do
  match ← CredentialStore.find .activation token with
  | none => throw (.auth .activationNotFound)
  | some activation => do
      UnitOfWork.perform (consumeActivation activation)
      ExceptT.lift (logInfo .accounts "User activated" [("user_id", .text activation.userId.text)])

/-- The writes of a new recovery: the recovery and the mail with the link. -/
def openRecovery (s : AccountService) (user : User) (id : Uuid) : Step K m Unit := do
  let recovery ← Step.lift (ExceptT.lift (freshCredential id))
  CredentialStore.save .recovery recovery
  let mail ← ExceptT.mk (pure
    (recoveryMail user.email s.config.passwordRecoveryUrl recovery.token))
  enqueueMail mail

/-- Starts the recovery of a password, and queues the recovery mail. -/
def createRecovery (s : AccountService) (email : String) : ExceptT Failure m Unit := do
  match ← UserStore.findByEmail email with
  | none => throw (.auth .userNotFound)
  | some user => do
      let id ← storedId user
      UnitOfWork.perform (s.openRecovery user id)
      ExceptT.lift (logInfo .accounts "Password recovery created"
        [("user_id", .text id.text), ("email", .text (Email.mask email))])

/-- The writes of a recovered password. -/
def consumeRecovery (user : User) (recovery : Credential) : Step K m Unit := do
  let _ ← UserStore.save user
  CredentialStore.delete .recovery recovery.token

/-- Changes a password with a recovery token, which is used up.  The old password
must still match. -/
def recoverPassword [PasswordHasher m] (input : RecoverInput) : ExceptT Failure m Unit := do
  match ← CredentialStore.find .recovery input.token with
  | none => throw (.auth .recoveryNotFound)
  | some recovery =>
      match ← UserStore.findById recovery.userId with
      | none => throw (.auth .userNotFound)
      | some user => do
          if ← PasswordHasher.verify input.oldPassword user.passwordHash then do
            let hash ← PasswordHasher.hash input.newPassword
            UnitOfWork.perform (consumeRecovery (user.withPasswordHash hash) recovery)
            ExceptT.lift (logInfo .accounts "Password recovered"
              [("user_id", .text recovery.userId.text)])
          else throw (.auth .wrongCredentials)

end

section

variable [MonadClock m] [MonadHalt m] [TokenSigner m] [RevocationStore m]

/-- Exchanges an address and a password for a pair of tokens.  An unknown address
and a wrong password are refused alike. -/
def login [UserStore m K] [PasswordHasher m] (s : AccountService) (input : LoginInput) :
    ExceptT Failure m TokenPair := do
  match ← UserStore.findByEmail input.email with
  | none => do
      ExceptT.lift (logDebug .accounts "Login for unknown email"
        [("email", .text (Email.mask input.email))])
      throw (.auth .wrongCredentials)
  | some user => do
      if ← PasswordHasher.verify input.password user.passwordHash then do
        let id ← storedId user
        s.tokens.issue id
      else do
        ExceptT.lift (logDebug .accounts "Login with wrong password"
          [("email", .text (Email.mask input.email))])
        throw (.auth .wrongCredentials)

/-- Revokes the refresh token and, if one is given, the access token.  Only the
refresh token has to be revocable; trouble with the access token is reported. -/
def logout [MonadObserve m] (input : LogoutInput) : ExceptT Failure m Unit := do
  TokenService.invalidateRefresh input.refreshToken
  match input.accessToken with
  | none => pure ()
  | some access =>
      match ← ExceptT.lift (TokenService.invalidate access).run with
      | .ok () => pure ()
      | .error e => ExceptT.lift (observeWarning "access token invalidation failed" e
          [("error_code", e.code)])

/-- Makes a new access token from a refresh token. -/
def refresh (s : AccountService) (token : String) : ExceptT Failure m String :=
  s.tokens.refresh token

/-- The user behind an access token. -/
def authorize (token : String) : ExceptT Failure m Uuid := TokenService.authorize token

end

end AccountService

end Gatehouse
