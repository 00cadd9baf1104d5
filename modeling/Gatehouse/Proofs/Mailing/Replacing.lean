/-
  Gatehouse/Proofs/Mailing/Replacing.lean --- a link keeps its base but for the tokens.

  A link for a token on a base is an address that differs from the base in its query alone,
  and there the pairs of the base are kept in their order, but for those that carry a token;
  the new token comes last.  All of this is found in the text of the link as well: it is cut
  at the first question mark and at the first number sign, and whatever the base and the
  token hold, no other mark is left in it.

  Main definitions: `Url.place`, `Url.placeIn`, `Url.fragmentIn?`, `Url.Replaces`.
  Main statements: `Url.placeIn_text`, `Url.fragmentIn?_text`, `linkWithToken_replaces`.
-/
import Gatehouse.Proofs.Mailing.Links

set_option autoImplicit false

namespace Gatehouse

namespace Url

/-! ## The parts of a text -/

/-- What stands in front of the query of an address: its scheme, its authority and its path. -/
def place (u : Url) : List Char := u.scheme ++ ':' :: (u.front ++ u.path.text)

/-- What stands in front of the query in the text of an address. -/
def placeIn (cs : List Char) : List Char := cs.takeWhile fun c => !endsPath c

/-- The fragment in the text of an address: what stands behind the first number sign. -/
def fragmentIn? (cs : List Char) : Option (List Char) :=
  match cs.dropWhile (· ≠ '#') with
  | [] => none
  | _ :: fragment => some fragment

theorem text_eq (u : Url) :
    u.text = u.place ++ (marked '?' u.query ++ marked '#' u.fragment) := by
  simp [text, place]

variable {u : Url}

theorem Tidy.place (h : u.Tidy) : Clear u.place := by
  have hcolon : endsPath ':' = false := rfl
  simp [Url.place, h.scheme, hcolon, h.front, h.path]

/-- What stands in front of the query is found in the text of an address. -/
theorem placeIn_text (h : u.Tidy) : placeIn u.text = u.place := by
  have hplace : ∀ c ∈ u.place, (!endsPath c) = true := by
    intro c hc
    rw [h.place c hc, Bool.not_false]
  have htail : (marked '?' u.query ++ marked '#' u.fragment).takeWhile (fun c => !endsPath c)
      = [] := by
    cases u.query with
    | some query => exact List.takeWhile_cons_of_neg (by decide)
    | none =>
      cases u.fragment with
      | some fragment => exact List.takeWhile_cons_of_neg (by decide)
      | none => rfl
  rw [placeIn, text_eq, List.takeWhile_append_of_pos hplace, htail, List.append_nil]

/-- The fragment is found in the text of an address whose query holds no number sign. -/
theorem fragmentIn?_text (h : u.Tidy) (unmarked : ∀ query, u.query = some query → '#' ∉ query) :
    fragmentIn? u.text = u.fragment := by
  have hplace : ∀ c ∈ u.place, decide (c ≠ '#') = true := by
    intro c hc
    have hclear := h.place c hc
    rw [decide_eq_true_eq]
    rintro rfl
    exact absurd hclear (by decide)
  have hquery : ∀ c ∈ marked '?' u.query, decide (c ≠ '#') = true := by
    intro c hc
    rw [decide_eq_true_eq]
    rintro rfl
    cases hsome : u.query with
    | none =>
      rw [hsome] at hc
      cases hc
    | some query =>
      rw [hsome] at hc
      exact unmarked query hsome ((List.mem_cons.1 hc).resolve_left (by decide))
  rw [fragmentIn?, text_eq, List.dropWhile_append_of_pos hplace,
    List.dropWhile_append_of_pos hquery]
  cases u.fragment with
  | none => rfl
  | some fragment => rw [marked, List.dropWhile_cons_of_neg (by simp)]

/-! ## Tokens -/

/-- Whether an address is another one with a token in its query, in place of any that were
there. -/
structure Replaces (u : Url) (token : List Char) (v : Url) : Prop where
  scheme : v.scheme = u.scheme
  /-- The user, the host and the port. -/
  authority : v.authority = u.authority
  path : v.path = u.path
  fragment : v.fragment = u.fragment
  pairs : v.pairs = (u.pairs.filter fun p => p.1 ≠ tokenKey) ++ [(tokenKey, token)]

theorem replaces_withToken (u : Url) (token : List Char) :
    u.Replaces token (u.withToken token) where
  scheme := rfl
  authority := rfl
  path := rfl
  fragment := rfl
  pairs := Form.decode_encode _

end Url

/-- On every base that is read as an address a link is made for any token.  It is the text of
an address with the scheme, the user, the host, the port, the path and the fragment of the
base, and its query has the pairs of the base that are no tokens, in their order, and the token
after them.  The text up to the query is the one of the base, and the pairs and the fragment
are read from it.  On any other base no link is made. -/
theorem linkWithToken_replaces (base token : String) :
    match Url.parse base.toList with
    | .ok u => ∃ link v, linkWithToken base token = .ok link
        ∧ link.toList = Url.text v ∧ u.Replaces token.toList v
        ∧ Url.placeIn link.toList = Url.placeIn u.text
        ∧ (Url.queryIn? link.toList).map Form.decode = some v.pairs
        ∧ Url.fragmentIn? link.toList = u.fragment
    | .error e => linkWithToken base token
        = .error (.internal ("Failed to parse link base '" ++ base ++ "': " ++ e.message)) := by
  cases hparse : Url.parse base.toList with
  | error e => rw [linkWithToken, hparse]
  | ok u =>
    have tidy := Url.tidy_of_parse hparse
    have tidy' : (u.withToken token.toList).Tidy := ⟨tidy.scheme, tidy.authority, tidy.path⟩
    have unmarked : ∀ query, (u.withToken token.toList).query = some query → '#' ∉ query := by
      rintro query ⟨⟩ hmem
      exact Form.ne_of_mem_encode hmem rfl
    refine ⟨String.ofList (u.withToken token.toList).text, u.withToken token.toList, ?_,
      String.toList_ofList, u.replaces_withToken token.toList, ?_, ?_, ?_⟩
    · rw [linkWithToken, hparse]
    · rw [String.toList_ofList, Url.placeIn_text tidy, Url.placeIn_text tidy']
      rfl
    · rw [String.toList_ofList, Url.queryIn?_text tidy' rfl (unmarked _ rfl)]
      rfl
    · rw [String.toList_ofList, Url.fragmentIn?_text tidy' unmarked]
      rfl

end Gatehouse
