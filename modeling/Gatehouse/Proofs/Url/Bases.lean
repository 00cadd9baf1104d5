/-
  Gatehouse/Proofs/Url/Bases.lean --- which bases of links are addresses.

  A base that begins like a web address need not be one: what decides is the authority
  behind the scheme.  Its host must be there and be read, and its port must be a number of
  16 bits.  The user, the path, the query and the fragment may be anything, and so may the
  token that the link carries.

  Main definitions: `Url.webAuthority`, `Url.Reachable`.
  Main statements: `Url.exists_parse_iff`, `exists_linkWithToken_iff`.
-/
import Gatehouse.Config.App
import Gatehouse.Mailing.Template
import Gatehouse.Proofs.Text.Numerals

set_option autoImplicit false

namespace Gatehouse

namespace Url

/-! ## The authority of a base -/

/-- What stands behind the scheme of a base and the slashes that follow it. -/
def behindScheme (base : List Char) : List Char :=
  ((((cleaned base).dropWhile isSchemeChar).drop 1).dropWhile isSlash)

/-- The authority of a base as it is written. -/
def webAuthority (base : List Char) : AuthorityParts :=
  (splitAuthority .special (behindScheme base)).1

/-- Whether the host of a base is there and can be read, and its port, if it has one, is a
number of 16 bits. -/
structure Reachable (base : List Char) : Prop where
  named : (webAuthority base).host ≠ []
  host : ∃ h, Host.parse (webAuthority base).host = .ok h
  digits : ∀ c ∈ (webAuthority base).port.drop 1, (Numeral.digit? c).isSome
  port : Numeral.valueFrom 0 ((webAuthority base).port.drop 1) ≤ Numeral.max16

theorem exists_readPort_iff {cs : List Char} :
    (∃ n, readPort cs = .ok n)
      ↔ (∀ c ∈ cs, (Numeral.digit? c).isSome) ∧ Numeral.valueFrom 0 cs ≤ Numeral.max16 := by
  rw [← Numeral.exists_readDigits_iff .tooLarge (Nat.zero_le _)]
  cases cs with
  | nil => exact iff_of_true ⟨none, rfl⟩ ⟨0, rfl⟩
  | cons c cs =>
    rw [readPort, List.isEmpty_cons, if_neg Bool.false_ne_true]
    cases Numeral.readDigits Numeral.max16 .tooLarge (c :: cs) 0 with
    | error e => exact iff_of_false (fun ⟨n, h⟩ => nomatch h) (fun ⟨n, h⟩ => nomatch h)
    | ok n => exact iff_of_true ⟨some n, rfl⟩ ⟨n, rfl⟩

/-- Under a scheme that has hosts, an authority is read when its host and its port are. -/
theorem exists_readAuthority_iff {scheme more : List Char} {parts : AuthorityParts}
    (special : SchemeKind.ofName scheme = .special) :
    (∃ a, readAuthority scheme parts more = .ok a)
      ↔ parts.host ≠ [] ∧ (∃ h, Host.parse parts.host = .ok h)
        ∧ ∃ n, readPort (parts.port.drop 1) = .ok n := by
  rw [readAuthority, special, readHost]
  cases hhost : parts.host with
  | nil =>
    refine iff_of_false ?_ fun h => h.1 rfl
    rintro ⟨a, h⟩
    split at h
    · cases h
    · cases h
  | cons c cs =>
    rw [List.isEmpty_cons, Bool.and_false, Bool.false_and, Bool.false_and,
      if_neg Bool.false_ne_true, if_neg Bool.false_ne_true, if_pos rfl]
    cases Host.parse (c :: cs) with
    | error e => exact iff_of_false (fun ⟨a, h⟩ => nomatch h) fun ⟨_, ⟨host, h⟩, _⟩ => nomatch h
    | ok host =>
      cases readPort (parts.port.drop 1) with
      | error e => exact iff_of_false (fun ⟨a, h⟩ => nomatch h) fun ⟨_, _, n, h⟩ => nomatch h
      | ok n => exact iff_of_true ⟨_, rfl⟩ ⟨nofun, ⟨host, rfl⟩, n, rfl⟩

/-! ## Web addresses -/

/-- What has nothing to be passed over at its ends or within keeps its place. -/
theorem cleaned_append (front rest : List Char) (nonempty : front ≠ [])
    (first : isPadding (front.head nonempty) = false)
    (last : isPadding (front.getLast nonempty) = false) (whole : front.any isBreak = false) :
    ∃ rest', cleaned (front ++ rest) = front ++ rest' := by
  have stays : ∀ {cs : List Char} (h : cs ≠ []), isPadding (cs.head h) = false →
      cs.dropWhile isPadding = cs := by
    intro cs h hhead
    cases cs with
    | nil => rfl
    | cons c cs => exact List.dropWhile_cons_of_neg (by simpa using hhead)
  have hfirst : (front ++ rest).dropWhile isPadding = front ++ rest := by
    refine stays (List.append_ne_nil_of_left_ne_nil nonempty rest) ?_
    rw [List.head_append_of_ne_nil nonempty]
    exact first
  have hlast : front.reverse.dropWhile isPadding = front.reverse := by
    refine stays (List.reverse_ne_nil_iff.2 nonempty) ?_
    rw [List.head_reverse]
    exact last
  have hback : (rest.reverse ++ front.reverse).dropWhile isPadding
      = rest.reverse.dropWhile isPadding ++ front.reverse := by
    rw [List.dropWhile_append, hlast]
    split
    · rename_i hempty
      rw [List.isEmpty_iff.1 hempty, List.nil_append]
    · rfl
  have hwhole : front.filter (fun c => !isBreak c) = front := by
    refine List.filter_eq_self.2 ?_
    intro c hc
    rw [Bool.eq_false_iff.2 (List.any_eq_false.1 whole c hc), Bool.not_false]
  refine ⟨(rest.reverse.dropWhile isPadding).reverse.filter fun c => !isBreak c, ?_⟩
  rw [cleaned, hfirst, List.reverse_append, hback, List.reverse_append, List.reverse_reverse,
    List.filter_append, hwhole]

/-- A text that begins like a web address is read as one with that authority. -/
theorem parse_eq_readHierarchy {base : String} (web : isWebUrl base = true) :
    ∃ scheme, SchemeKind.ofName scheme = .special
      ∧ parse base.toList = readHierarchy scheme (behindScheme base.toList) := by
  rw [isWebUrl, Bool.or_eq_true, List.isPrefixOf_iff_prefix, List.isPrefixOf_iff_prefix] at web
  rcases web with ⟨rest, hbase⟩ | ⟨rest, hbase⟩
  · obtain ⟨rest', hcleaned⟩ := cleaned_append "http://".toList rest (by decide)
      (by decide) (by decide) (by decide)
    refine ⟨"http".toList, by decide, ?_⟩
    rw [← hbase, parse, behindScheme, hcleaned]
    rfl
  · obtain ⟨rest', hcleaned⟩ := cleaned_append "https://".toList rest (by decide)
      (by decide) (by decide) (by decide)
    refine ⟨"https".toList, by decide, ?_⟩
    rw [← hbase, parse, behindScheme, hcleaned]
    rfl

/-- A text that begins like a web address is an address exactly when its authority is. -/
theorem exists_parse_iff {base : String} (web : isWebUrl base = true) :
    (∃ u, parse base.toList = .ok u) ↔ Reachable base.toList := by
  obtain ⟨scheme, special, hparse⟩ := parse_eq_readHierarchy web
  have hreachable : Reachable base.toList
      ↔ ∃ a, readAuthority scheme (webAuthority base.toList)
        (splitAuthority .special (behindScheme base.toList)).2 = .ok a := by
    rw [exists_readAuthority_iff special, exists_readPort_iff]
    exact ⟨fun h => ⟨h.named, h.host, h.digits, h.port⟩, fun ⟨named, host, digits, port⟩ =>
      ⟨named, host, digits, port⟩⟩
  rw [hparse, hreachable, readHierarchy, special]
  dsimp only
  rw [webAuthority]
  cases readAuthority scheme (splitAuthority .special (behindScheme base.toList)).1
      (splitAuthority .special (behindScheme base.toList)).2 with
  | error e => exact iff_of_false (fun ⟨u, h⟩ => nomatch h) fun ⟨a, h⟩ => nomatch h
  | ok a => exact iff_of_true ⟨_, rfl⟩ ⟨a, rfl⟩

end Url

/-- A link is made on a base that begins like a web address exactly when the authority of
the base is read. -/
theorem exists_linkWithToken_iff {base : String} (web : isWebUrl base = true) (token : String) :
    (∃ link, linkWithToken base token = .ok link) ↔ Url.Reachable base.toList := by
  rw [← Url.exists_parse_iff web, linkWithToken]
  cases Url.parse base.toList with
  | error e => exact iff_of_false (fun ⟨link, h⟩ => nomatch h) fun ⟨u, h⟩ => nomatch h
  | ok u => exact iff_of_true ⟨_, rfl⟩ ⟨u, rfl⟩

end Gatehouse
