/-
  Gatehouse/Proofs/Mailing/Links.lean --- the token in a mail.

  Whoever gets a mail of the account workflows reads its token from the link: the value of
  the first `href` in the body, with the entities read, is an address, and the token is the
  last value of its name in the query.  For every base that is an address, be there tokens
  in its query already or a fragment behind it, this is the token that the mail was made
  for.

  Main definitions: `Mail.token?`, `Mail.Brings`.
  Main statement: `CredentialKind.brings_of_mail`.
-/
import Gatehouse.Mailing.Template
import Gatehouse.Proofs.Text.Forms
import Gatehouse.Proofs.Url.Front
import Gatehouse.Text.Search

set_option autoImplicit false

namespace Gatehouse

/-! ## Reading a mail -/

/-- The last value of a name in a form. -/
def Form.last? (name : List Char) (pairs : List Form.Pair) : Option (List Char) :=
  (pairs.reverse.find? fun p => p.1 = name).map Prod.snd

/-- The token in the text of an address: the last one in its query. -/
def tokenInLink? (link : List Char) : Option (List Char) :=
  (Url.queryIn? link).bind fun query => Form.last? tokenKey (Form.decode query)

/-- The address in a body: the value of the first `href`, with the entities read. -/
def linkInBody? (body : List Char) : Option (List Char) :=
  (Text.splitAt? "href=\"".toList body).map fun p => Html.unescape (p.2.takeWhile (· ≠ '"'))

/-- The token that a mail carries. -/
def Mail.token? (m : Mail) : Option String :=
  ((linkInBody? m.content.toList).bind tokenInLink?).map String.ofList

/-! ## Links -/

theorem Form.last?_concat (name value : List Char) (pairs : List Form.Pair) :
    last? name (pairs ++ [(name, value)]) = some value := by
  simp [last?]

/-- The link for a token on any address carries the token. -/
theorem tokenInLink?_withToken {u : Url} (h : u.Tidy) (token : List Char) :
    tokenInLink? (u.withToken token).text = some token := by
  have htidy : (u.withToken token).Tidy := ⟨h.scheme, h.authority, h.path⟩
  have hmark : '#' ∉ Form.encode
      ((u.pairs.filter fun p => p.1 ≠ tokenKey) ++ [(tokenKey, token)]) := by
    intro hmem
    exact Form.ne_of_mem_encode hmem rfl
  have hquery := Url.queryIn?_text htidy rfl hmark
  unfold tokenInLink?
  rw [hquery, Option.bind_some, Form.decode_encode, Form.last?_concat]

theorem tokenInLink?_of_linkWithToken {base token link : String}
    (h : linkWithToken base token = .ok link) :
    tokenInLink? link.toList = some token.toList := by
  unfold linkWithToken at h
  split at h
  · rename_i u hparse
    cases h
    rw [String.toList_ofList]
    exact tokenInLink?_withToken (Url.tidy_of_parse hparse) token.toList
  · cases h

/-! ## Bodies -/

/-- A body up to the value of its `href`. -/
def bodyFront (lead : String) : List Char := ("<html><body><p>" ++ lead ++ " <a href=\"").toList

/-- A body behind the value of its `href` and the quotation mark. -/
def bodyBack (link : String) : List Char :=
  (">" ++ String.ofList (Html.escape link.toList) ++ "</a></p></body></html>").toList

theorem toList_mailBody (lead link : String) :
    (mailBody lead link).toList
      = bodyFront lead ++ (Html.escape link.toList ++ '"' :: bodyBack link) := by
  have hquote : "\">".toList = '"' :: ">".toList := rfl
  unfold mailBody bodyFront bodyBack
  dsimp only
  simp only [String.toList_append, String.toList_ofList, hquote, List.append_assoc,
    List.cons_append]

/-- The link of a body is read back when the sentence before it has no link. -/
theorem linkInBody?_mailBody {lead : String} (link : String)
    (single : ∀ rest, (Text.splitAt? "href=\"".toList (bodyFront lead ++ rest)).map Prod.snd
      = some rest) :
    linkInBody? (mailBody lead link).toList = some link.toList := by
  have hvalue : ∀ c ∈ Html.escape link.toList, decide (c ≠ '"') = true := by
    intro c hc
    exact decide_eq_true (Html.ne_of_mem_escape hc)
  have hsplit := single (Html.escape link.toList ++ '"' :: bodyBack link)
  rw [Option.map_eq_some_iff] at hsplit
  obtain ⟨parts, hparts, hrest⟩ := hsplit
  unfold linkInBody?
  rw [toList_mailBody, hparts, Option.map_some, hrest, List.takeWhile_append_of_pos hvalue,
    List.takeWhile_cons_of_neg (by simp), List.append_nil, Html.unescape_escape]

theorem token?_of_linkWithToken {base token link lead : String} {m : Mail}
    (h : linkWithToken base token = .ok link) (content : m.content = mailBody lead link)
    (single : ∀ rest, (Text.splitAt? "href=\"".toList (bodyFront lead ++ rest)).map Prod.snd
      = some rest) : m.token? = some token := by
  unfold Mail.token?
  rw [content, linkInBody?_mailBody link single, Option.bind_some,
    tokenInLink?_of_linkWithToken h, Option.map_some, String.ofList_toList]

/-! ## Mails -/

/-- Whether a mail for an address, not delivered yet, carries a token. -/
structure Mail.Brings (m : Mail) (address token : String) : Prop where
  address : m.address = address
  unmailed : m.mailed = false
  token : m.token? = some token

/-- The first link in the body of a mail comes right after its sentence. -/
theorem CredentialKind.splitAt?_lead (kind : CredentialKind) (rest : List Char) :
    (Text.splitAt? "href=\"".toList (bodyFront kind.lead ++ rest)).map Prod.snd = some rest := by
  cases kind with
  | activation => rfl
  | recovery => rfl

/-- The mail that is made for a credential brings its token. -/
theorem CredentialKind.brings_of_mail (kind : CredentialKind) {address base token : String}
    {m : Mail} (h : kind.mail address base token = .ok m) : m.Brings address token := by
  unfold mail at h
  cases hlink : linkWithToken base token with
  | error e =>
    rw [hlink] at h
    cases h
  | ok link =>
    rw [hlink] at h
    cases h
    exact ⟨rfl, rfl, token?_of_linkWithToken hlink rfl kind.splitAt?_lead⟩

/-- A mail brings its token under whatever id it is queued. -/
theorem Mail.Brings.withId {m : Mail} {address token : String} (h : m.Brings address token)
    (id : Option Uuid) : Mail.Brings { m with id } address token :=
  ⟨h.address, h.unmailed, h.token⟩

end Gatehouse
