/-
  Gatehouse/Failure.lean --- what can go wrong, and how it is told.

  A failure is a cause.  Its message, its kind (what a caller may do about it)
  and its code (a stable name for machines) are functions of the cause.

  Main definitions: `Failure`, `Failure.message`, `Failure.kind`, `Failure.code`.
-/

set_option autoImplicit false

namespace Gatehouse

/-- Failures of the account workflows.  An unknown address and a wrong password
are told the same way. -/
inductive AuthFailure where
  | emailAlreadyTaken
  | userNotFound
  | activationNotFound
  | recoveryNotFound
  | wrongCredentials
  deriving DecidableEq, Repr, Inhabited

/-- Failures of session tokens. -/
inductive TokenFailure where
  /-- Malformed, badly signed, expired, revoked, or of the wrong kind. -/
  | invalid
  /-- The token to be revoked expired that many seconds ago. -/
  | negativeTtl (expiredFor : Int)
  /-- A token could not be made. -/
  | generation (message : String)
  deriving DecidableEq, Repr, Inhabited

/-- Failures of the outbox. -/
inductive MailingFailure where
  /-- No mail of a batch was accepted. -/
  | allFailed (attempted : Nat)
  /-- A cycle overran its deadline. -/
  | timeout (limit : Nat)
  /-- The run was stopped; the totals up to then. -/
  | cancelled (cycles delivered failed : Nat)
  deriving DecidableEq, Repr, Inhabited

/-- A failure of the service. -/
inductive Failure where
  /-- A store, relay or other collaborator failed. -/
  | internal (message : String)
  /-- The last failure after all attempts. -/
  | retriesExhausted (attempts : Nat) (last : Failure)
  /-- Everything that failed while a unit of work was committed. -/
  | commit (failures : List Failure)
  | auth (failure : AuthFailure)
  | token (failure : TokenFailure)
  | mailing (failure : MailingFailure)
  deriving Repr, Inhabited

/-- What a failure is to the caller. -/
inductive FailureKind where
  | notFound
  | conflict
  | credentialMismatch
  | invalidToken
  | backend
  | exhaustedRetries
  deriving DecidableEq, Repr, Inhabited

/-- The name of a kind. -/
def FailureKind.name : FailureKind → String
  | .notFound => "NotFound"
  | .conflict => "Conflict"
  | .credentialMismatch => "CredentialMismatch"
  | .invalidToken => "InvalidToken"
  | .backend => "Upstream"
  | .exhaustedRetries => "ExhaustedRetries"

/-! ## Messages -/

def AuthFailure.message : AuthFailure → String
  | .emailAlreadyTaken => "Email already taken"
  | .userNotFound => "User not found"
  | .activationNotFound => "User activation not found"
  | .recoveryNotFound => "Password recovery not found"
  | .wrongCredentials => "Wrong credentials"

def TokenFailure.message : TokenFailure → String
  | .invalid => "Invalid token"
  | .negativeTtl expiredFor => s!"Cannot revoke a token that expired {expiredFor}s ago"
  | .generation message => "Token generation failed: " ++ message

def MailingFailure.message : MailingFailure → String
  | .allFailed attempted => s!"all mails finished with error ({attempted} attempted)"
  | .timeout limit => s!"mail processing exceeded its {limit} ms deadline"
  | .cancelled cycles _ _ => s!"mail processing was cancelled after {cycles} cycles"

mutual

/-- The message of a failure.  A wrapped failure is told after its wrapper. -/
def Failure.message : Failure → String
  | .internal message => "Internal error: " ++ message
  | .retriesExhausted attempts last =>
      s!"reached maximum number of retries ({attempts} attempts): " ++ last.message
  | .commit failures => "commit failed: " ++ Failure.messages failures
  | .auth failure => failure.message
  | .token failure => failure.message
  | .mailing failure => failure.message

/-- The messages of several failures, with semicolons between them. -/
def Failure.messages : List Failure → String
  | [] => ""
  | [f] => f.message
  | f :: rest => f.message ++ "; " ++ Failure.messages rest

end

/-! ## Kinds and codes -/

namespace Failure

/-- The kind of a failure. -/
def kind : Failure → FailureKind
  | .auth .emailAlreadyTaken => .conflict
  | .auth .userNotFound | .auth .activationNotFound | .auth .recoveryNotFound => .notFound
  | .auth .wrongCredentials => .credentialMismatch
  | .token .invalid => .invalidToken
  | .retriesExhausted _ _ => .exhaustedRetries
  | .token _ | .internal _ | .commit _ | .mailing _ => .backend

/-- The code of a failure. -/
def code : Failure → String
  | .internal _ => "INTERNAL_ERROR"
  | .retriesExhausted _ _ => "RETRIES_EXHAUSTED"
  | .commit _ => "COMMIT_FAILED"
  | .auth .emailAlreadyTaken => "EMAIL_ALREADY_TAKEN"
  | .auth .userNotFound => "USER_NOT_FOUND"
  | .auth .activationNotFound => "ACTIVATION_NOT_FOUND"
  | .auth .recoveryNotFound => "RECOVERY_NOT_FOUND"
  | .auth .wrongCredentials => "WRONG_CREDENTIALS"
  | .token .invalid => "INVALID_TOKEN"
  | .token (.negativeTtl _) => "NEGATIVE_REVOCATION_TTL"
  | .token (.generation _) => "TOKEN_GENERATION_FAILED"
  | .mailing (.timeout _) => "TIMEOUT"
  | .mailing _ => "INTERNAL_ERROR"

/-- Whether a failure tells of absent data or bad input, not of something that
broke. -/
def isClientError (f : Failure) : Bool :=
  match f.kind with
  | .backend | .exhaustedRetries => false
  | _ => true

/-- The failures that a failure wraps, the nearest first.  The failures of a
commit stand side by side and are not a chain. -/
def causes : Failure → List Failure
  | .retriesExhausted _ last => last :: last.causes
  | _ => []

end Failure

end Gatehouse
