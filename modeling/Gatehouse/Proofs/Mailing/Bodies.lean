/-
  Gatehouse/Proofs/Mailing/Bodies.lean --- the link in the body of a mail.

  The link of a mail is written twice, as the value of an attribute and as text between
  tags.  Whatever the link holds, neither place is left before the link is over: the body
  falls into the same tags for every link, the link as it is written has none of the
  characters that mean something there but the ampersands of the five entities, and with
  these read it is the link.  So a body tells which link it was made for.

  Main definitions: `Html.Inert`, `Html.pieces`, `ShowsLink`.
  Main statements: `Html.inert_escape`, `showsLink_mailBody`, `ShowsLink.unique`,
  `CredentialKind.mail_showsLink`.
-/
import Gatehouse.Proofs.Mailing.Links

set_option autoImplicit false

namespace Gatehouse

namespace Html

/-! ## Inert texts -/

/-- What stands behind the ampersand in each of the five entities. -/
def entities : List (List Char) :=
  ["amp;".toList, "lt;".toList, "gt;".toList, "quot;".toList, "#39;".toList]

/-- Whether a text means nothing but itself and the characters of its entities, be it between
tags or in quotation marks. -/
structure Inert (cs : List Char) : Prop where
  unmarked : ∀ c ∈ cs, c ≠ '<' ∧ c ≠ '>' ∧ c ≠ '"' ∧ c ≠ '\''
  /-- Every ampersand begins an entity. -/
  begun : ∀ front rest, cs = front ++ '&' :: rest → ∃ entity ∈ entities, entity <+: rest

theorem inert_nil : Inert [] where
  unmarked := nofun
  begun front rest h := by simp at h

theorem Inert.append {cs ds : List Char} (hcs : Inert cs) (hds : Inert ds) :
    Inert (cs ++ ds) where
  unmarked c hc := (List.mem_append.1 hc).elim (hcs.unmarked c) (hds.unmarked c)
  begun front rest h := by
    rcases List.append_eq_append_iff.1 h with ⟨more, hfront, hds'⟩ | ⟨more, hcs', hrest⟩
    · exact hds.begun more rest hds'
    · cases more with
      | nil => exact hds.begun [] rest hrest.symm
      | cons c more =>
        obtain ⟨rfl, rfl⟩ := List.cons.inj hrest
        obtain ⟨entity, hentity, hmore⟩ := hcs.begun front more hcs'
        exact ⟨entity, hentity, hmore.trans (List.prefix_append more ds)⟩

theorem inert_entity {entity : List Char} (h : entity ∈ entities) : Inert ('&' :: entity) where
  unmarked c hc := by
    have hclear : entities.all (fun entity => ('&' :: entity).all fun c =>
        c != '<' && c != '>' && c != '"' && c != '\'') = true := by decide
    have hchar := List.all_eq_true.1 (List.all_eq_true.1 hclear entity h) c hc
    simp only [Bool.and_eq_true, bne_iff_ne, and_assoc] at hchar
    exact hchar
  begun front rest hsplit := by
    cases front with
    | nil =>
      obtain ⟨-, rfl⟩ := List.cons.inj hsplit
      exact ⟨entity, h, List.prefix_rfl⟩
    | cons c front =>
      -- No entity has a second ampersand.
      have hsingle : ∀ entity ∈ entities, '&' ∉ entity := by decide
      obtain ⟨-, rfl⟩ := List.cons.inj hsplit
      exact absurd (by simp) (hsingle _ h)

theorem inert_escapeChar (c : Char) : Inert (escapeChar c) := by
  unfold escapeChar
  split
  · exact inert_entity (show "amp;".toList ∈ entities by decide)
  split
  · exact inert_entity (show "lt;".toList ∈ entities by decide)
  split
  · exact inert_entity (show "gt;".toList ∈ entities by decide)
  split
  · exact inert_entity (show "quot;".toList ∈ entities by decide)
  split
  · exact inert_entity (show "#39;".toList ∈ entities by decide)
  · rename_i amp lt gt quot apostrophe
    refine ⟨fun d hd => ?_, fun front rest h => ?_⟩
    · rw [List.mem_singleton.1 hd]
      exact ⟨lt, gt, quot, apostrophe⟩
    · have hmem : '&' ∈ [c] := by simp [h]
      exact absurd (List.mem_singleton.1 hmem).symm amp

/-- A text as it is written inside HTML is inert. -/
theorem inert_escape (cs : List Char) : Inert (escape cs) := by
  induction cs with
  | nil => exact inert_nil
  | cons c cs ih => exact (inert_escapeChar c).append ih

/-! ## Pieces -/

/-- Where in HTML a character stands. -/
inductive Place where
  | text
  | tag
  /-- In the value of an attribute, up to the mark that began it. -/
  | value (mark : Char)
  deriving DecidableEq, Repr

/-- Where the next character stands. -/
def Place.next : Place → Char → Place
  | .text, c => if c = '<' then .tag else .text
  | .tag, c => if c = '>' then .text else if c = '"' ∨ c = '\'' then .value c else .tag
  | .value mark, c => if c = mark then .tag else .value mark

/-- A piece of HTML, up to the character at which its place is left. -/
structure Piece where
  place : Place
  text : List Char
  deriving DecidableEq, Repr

/-- The pieces of a text, the first of which was begun before. -/
def piecesFrom (place : Place) (begun : List Char) : List Char → List Piece
  | [] => [⟨place, begun⟩]
  | c :: cs =>
      if place.next c = place then piecesFrom place (begun ++ [c]) cs
      else ⟨place, begun⟩ :: piecesFrom (place.next c) [] cs

/-- The pieces of a text. -/
def pieces (cs : List Char) : List Piece := piecesFrom .text [] cs

/-- A text that does not leave its place belongs to the piece that was begun. -/
theorem piecesFrom_append {place : Place} {cs : List Char}
    (stays : ∀ c ∈ cs, place.next c = place) (begun rest : List Char) :
    piecesFrom place begun (cs ++ rest) = piecesFrom place (begun ++ cs) rest := by
  induction cs generalizing begun with
  | nil => rw [List.nil_append, List.append_nil]
  | cons c cs ih =>
    rw [List.cons_append, piecesFrom, if_pos (stays c List.mem_cons_self),
      ih fun d hd => stays d (List.mem_cons_of_mem c hd), List.append_assoc, List.singleton_append]

/-- An inert text leaves neither the text between tags nor a value in quotation marks. -/
theorem Inert.stays {cs : List Char} (h : Inert cs) :
    (∀ c ∈ cs, Place.text.next c = .text) ∧ ∀ c ∈ cs, (Place.value '"').next c = .value '"' :=
  ⟨fun c hc => if_neg (h.unmarked c hc).1, fun c hc => if_neg (h.unmarked c hc).2.2.1⟩

end Html

/-! ## Bodies -/

/-- The pieces of a body with a sentence and a link, as it is written: the tags are the same
for every link. -/
def bodyPieces (lead href : List Char) : List Html.Piece :=
  [⟨.text, []⟩, ⟨.tag, "html".toList⟩, ⟨.text, []⟩, ⟨.tag, "body".toList⟩, ⟨.text, []⟩,
    ⟨.tag, "p".toList⟩, ⟨.text, lead ++ [' ']⟩, ⟨.tag, "a href=".toList⟩, ⟨.value '"', href⟩,
    ⟨.tag, []⟩, ⟨.text, href⟩, ⟨.tag, "/a".toList⟩, ⟨.text, []⟩, ⟨.tag, "/p".toList⟩,
    ⟨.text, []⟩, ⟨.tag, "/body".toList⟩, ⟨.text, []⟩, ⟨.tag, "/html".toList⟩, ⟨.text, []⟩]

/-- Whether a body shows a link behind a sentence, written as `href`. -/
structure ShowsLink (body lead link : String) (href : List Char) : Prop where
  text : body.toList = "<html><body><p>".toList ++ lead.toList ++ " <a href=\"".toList ++ href
    ++ "\">".toList ++ href ++ "</a></p></body></html>".toList
  /-- The link ends neither the value nor the text in which it stands. -/
  pieces : Html.pieces body.toList = bodyPieces lead.toList href
  inert : Html.Inert href
  read : Html.unescape href = link.toList

theorem pieces_body {lead href : List Char} (untagged : '<' ∉ lead) (inert : Html.Inert href) :
    Html.pieces ("<html><body><p>".toList ++ (lead ++ (" <a href=\"".toList ++ (href
      ++ ("\">".toList ++ (href ++ "</a></p></body></html>".toList))))))
      = bodyPieces lead href := by
  have hlead : ∀ c ∈ lead, Html.Place.text.next c = .text := by
    rintro c hc
    refine if_neg ?_
    rintro rfl
    exact untagged hc
  obtain ⟨stays, staysQuoted⟩ := inert.stays
  have front : ∀ rest, Html.pieces ("<html><body><p>".toList ++ rest)
      = (bodyPieces [] []).take 6 ++ Html.piecesFrom .text [] rest := fun rest => rfl
  have opened : ∀ rest, Html.piecesFrom .text lead (" <a href=\"".toList ++ rest)
      = ⟨.text, lead ++ [' ']⟩ :: ⟨.tag, "a href=".toList⟩
        :: Html.piecesFrom (.value '"') [] rest := fun rest => rfl
  have closed : ∀ rest, Html.piecesFrom (.value '"') href ("\">".toList ++ rest)
      = ⟨.value '"', href⟩ :: ⟨.tag, []⟩ :: Html.piecesFrom .text [] rest := fun rest => rfl
  rw [front, Html.piecesFrom_append hlead, List.nil_append, opened,
    Html.piecesFrom_append staysQuoted, List.nil_append, closed, Html.piecesFrom_append stays,
    List.nil_append]
  rfl

/-- A body shows its link, whatever the link holds. -/
theorem showsLink_mailBody {lead : String} (untagged : '<' ∉ lead.toList) (link : String) :
    ShowsLink (mailBody lead link) lead link (Html.escape link.toList) := by
  have inert := Html.inert_escape link.toList
  have text : (mailBody lead link).toList = "<html><body><p>".toList ++ (lead.toList
      ++ (" <a href=\"".toList ++ (Html.escape link.toList ++ ("\">".toList
        ++ (Html.escape link.toList ++ "</a></p></body></html>".toList))))) := by
    unfold mailBody
    dsimp only
    simp only [String.toList_append, String.toList_ofList, List.append_assoc]
  refine ⟨?_, ?_, inert, Html.unescape_escape link.toList⟩
  · simp only [text, List.append_assoc]
  · rw [text, pieces_body untagged inert]

/-- A body shows no two links, and no link behind two sentences. -/
theorem ShowsLink.unique {body lead lead' link link' : String} {href href' : List Char}
    (h : ShowsLink body lead link href) (h' : ShowsLink body lead' link' href') :
    lead' = lead ∧ link' = link := by
  have same : bodyPieces lead'.toList href' = bodyPieces lead.toList href :=
    h'.pieces.symm.trans h.pieces
  simp only [bodyPieces, List.cons.injEq, Html.Piece.mk.injEq, true_and, and_true] at same
  obtain ⟨hlead, rfl, -⟩ := same
  refine ⟨String.toList_injective (List.append_cancel_right hlead), ?_⟩
  exact String.toList_injective (h'.read.symm.trans h.read)

/-! ## Mails -/

namespace CredentialKind

theorem untagged_lead (kind : CredentialKind) : '<' ∉ kind.lead.toList := by
  cases kind <;> decide

theorem lead_inj {kind kind' : CredentialKind} (h : kind'.lead = kind.lead) : kind' = kind := by
  revert h
  cases kind <;> cases kind' <;> decide

/-- A mail for a credential can be made on every base on which a link can, and shows that link;
no mail with the same body is made for another link.  On any other base there is no mail. -/
theorem mail_showsLink (kind : CredentialKind) (address base token : String) :
    match linkWithToken base token with
    | .ok link => ∃ body href,
        kind.mail address base token = .ok (Mail.new address kind.subject body)
          ∧ ShowsLink body kind.lead link href
          ∧ ∀ (kind' : CredentialKind) (address' base' token' : String) (mail' : Mail),
            kind'.mail address' base' token' = .ok mail' → mail'.content = body →
            kind' = kind ∧ linkWithToken base' token' = .ok link
    | .error e => kind.mail address base token = .error e := by
  cases hlink : linkWithToken base token with
  | error e =>
    rw [mail, hlink]
    rfl
  | ok link =>
    have shows := showsLink_mailBody kind.untagged_lead link
    refine ⟨mailBody kind.lead link, Html.escape link.toList, ?_, shows, ?_⟩
    · rw [mail, hlink]
      rfl
    · intro kind' address' base' token' mail' made same
      rw [mail] at made
      cases hlink' : linkWithToken base' token' with
      | error e =>
        rw [hlink'] at made
        cases made
      | ok link' =>
        rw [hlink'] at made
        cases made
        have shows' := showsLink_mailBody kind'.untagged_lead link'
        rw [show mailBody kind'.lead link' = mailBody kind.lead link from same] at shows'
        obtain ⟨hlead, rfl⟩ := shows.unique shows'
        exact ⟨lead_inj hlead, rfl⟩

end CredentialKind

end Gatehouse
