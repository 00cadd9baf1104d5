/-
  Gatehouse/Mailing/Template.lean --- the mails of the account workflows.

  Each mail has a link that carries a credential token.  The token is a pair of
  the link's query; tokens that the base already has are taken out.

  Main definitions: `linkWithToken`, `CredentialKind.mail`, and its two cases `activationMail`
  and `recoveryMail`.
-/
import Gatehouse.Entity
import Gatehouse.Failure
import Gatehouse.Text.Html
import Gatehouse.Url.Form
import Gatehouse.Url.Parser

set_option autoImplicit false

namespace Gatehouse

/-! ## Links -/

/-- The name under which a link carries its token. -/
def tokenKey : List Char := "token".toList

/-- The pairs of an address's query. -/
def Url.pairs (u : Url) : List Form.Pair := Form.decode (u.query.getD [])

/-- The address with one token in its query, in place of any that it had. -/
def Url.withToken (u : Url) (token : List Char) : Url :=
  { u with query := some (Form.encode
      ((u.pairs.filter fun p => p.1 ≠ tokenKey) ++ [(tokenKey, token)])) }

/-- The link for a token on a configured base. -/
def linkWithToken (base token : String) : Except Failure String :=
  match Url.parse base.toList with
  | .ok u => .ok (String.ofList (u.withToken token.toList).text)
  | .error e => .error (.internal
      ("Failed to parse link base '" ++ base ++ "': " ++ e.message))

/-! ## Mails -/

/-- The body of a mail: a sentence and a link. -/
def mailBody (lead link : String) : String :=
  let href := String.ofList (Html.escape link.toList)
  "<html><body><p>" ++ lead ++ " <a href=\"" ++ href ++ "\">" ++ href ++ "</a></p></body></html>"

namespace CredentialKind

/-- The subject of the mail that brings a credential. -/
def subject : CredentialKind → String
  | .activation => "User activation"
  | .recovery => "Password recovery"

/-- The sentence in front of the link. -/
def lead : CredentialKind → String
  | .activation => "To activate your account follow by link"
  | .recovery => "To reset your password follow by link"

/-- The mail that brings a credential of a kind. -/
def mail (kind : CredentialKind) (address base token : String) : Except Failure Mail :=
  (linkWithToken base token).map fun link =>
    Mail.new address kind.subject (mailBody kind.lead link)

end CredentialKind

/-- The mail that asks to activate a new account. -/
def activationMail : (address base token : String) → Except Failure Mail :=
  CredentialKind.activation.mail

/-- The mail with which a forgotten password is changed. -/
def recoveryMail : (address base token : String) → Except Failure Mail :=
  CredentialKind.recovery.mail

end Gatehouse
