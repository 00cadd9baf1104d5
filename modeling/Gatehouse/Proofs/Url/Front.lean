/-
  Gatehouse/Proofs/Url/Front.lean --- what stands in front of the query.

  Whatever text was read as an address, its scheme, its authority and its path hold
  neither a question mark nor a number sign: what was read there ended at such a mark, or
  the mark is written as a byte.  So the first question mark of an address begins its
  query, and the first number sign its fragment.

  Main definitions: `Url.Tidy`, `Url.queryIn?`.
  Main statements: `Url.tidy_of_parse`, `Url.queryIn?_text`.
-/
import Gatehouse.Proofs.Url.Hosts

set_option autoImplicit false

namespace Gatehouse.Url

/-- Whether nothing in front of the query of an address ends the path. -/
structure Tidy (u : Url) : Prop where
  scheme : Clear u.scheme
  authority : ∀ a, u.authority = some a → Clear a.text
  path : Clear u.path.text

theorem Tidy.front {u : Url} (h : u.Tidy) : Clear u.front := by
  unfold Url.front
  split
  · rename_i a hauthority
    have hslash : endsPath '/' = false := rfl
    simp [hslash, h.authority a hauthority]
  · simp [endsPath]
  · exact clear_nil

/-! ## Scheme and authority -/

/-- Lowering a letter makes no mark. -/
theorem endsPath_toLower (c : Char) : endsPath c.toLower = endsPath c := by
  have hascii : ∀ n < 128, endsPath (Char.ofNat n).toLower = endsPath (Char.ofNat n) := by decide
  by_cases hc : c.toNat < 128
  · have hlower := hascii c.toNat hc
    rwa [Char.ofNat_toNat] at hlower
  · have hsame : c.toLower = c := by
      unfold Char.toLower
      apply dif_neg
      rintro ⟨-, hle⟩
      have hle : c.toNat ≤ 90 := hle
      omega
    rw [hsame]

theorem clear_of_scheme? {cs scheme rest : List Char} (h : scheme? cs = some (scheme, rest)) :
    Clear scheme := by
  unfold scheme? at h
  split at h
  · cases h
  · split at h
    · split at h
      · cases h
        intro d hd
        obtain ⟨c, hc, rfl⟩ := List.mem_map.1 hd
        have hscheme : isSchemeChar c = true := List.all_eq_true.1 List.all_takeWhile c hc
        rw [endsPath_toLower]
        apply endsPath_of_excluded (fun c => !isSchemeChar c) rfl rfl
        simp [hscheme]
      · cases h
    · cases h

theorem clear_readLogin (cs : List Char) : Clear (readLogin cs).1 ∧ Clear (readLogin cs).2 :=
  ⟨Percent.clear_encode_of_written rfl rfl _, Percent.clear_encode_of_written rfl rfl _⟩

theorem clear_of_readHost {kind : SchemeKind} {parts : AuthorityParts} {host : Host}
    (h : readHost kind parts = .ok (some host)) : Clear host.text := by
  unfold readHost at h
  split at h
  · split at h
    · cases h
    · cases h
  · split at h
    · cases hparse : Host.parse parts.host with
      | error e =>
        rw [hparse] at h
        cases h
      | ok host' =>
        rw [hparse] at h
        cases h
        exact Host.clear_of_parse hparse
    · cases hparse : Host.parseOpaque parts.host with
      | error e =>
        rw [hparse] at h
        cases h
      | ok host' =>
        rw [hparse] at h
        cases h
        exact Host.clear_of_parseOpaque hparse

/-- An authority is written without a mark when its parts are. -/
theorem clear_authority {a : Authority} (user : Clear a.user) (password : Clear a.password)
    (host : ∀ h, a.host = some h → Clear h.text) : Clear a.text := by
  have hcolon : endsPath ':' = false := rfl
  have hat : endsPath '@' = false := rfl
  unfold Authority.text
  dsimp only
  rw [clear_append, clear_append]
  refine ⟨⟨?_, ?_⟩, ?_⟩
  · split
    · exact clear_nil
    · split
      · simp [user, hat]
      · simp [user, password, hcolon, hat]
  · split
    · rename_i h hhost
      exact host h hhost
    · exact clear_nil
  · split
    · simp [hcolon, Numeral.clear_ofNat]
    · exact clear_nil

theorem clear_of_readAuthority {scheme more : List Char} {parts : AuthorityParts} {a : Authority}
    (h : readAuthority scheme parts more = .ok a) : Clear a.text := by
  unfold readAuthority at h
  split at h
  · cases h
  · obtain ⟨user, password⟩ := clear_readLogin (parts.login.getD [])
    dsimp only [bind, Except.bind] at h
    split at h
    · cases h
    · rename_i host hhost
      split at h
      · cases h
      · split at h
        · cases h
        · cases h
          refine clear_authority user password ?_
          rintro k rfl
          exact clear_of_readHost hhost

/-! ## Paths -/

theorem clear_segments {parts : List (List Char)} (h : ∀ part ∈ parts, Clear part) :
    Clear (UrlPath.segments parts).text := by
  unfold UrlPath.text
  dsimp only
  rw [clear_flatMap]
  intro part hpart
  exact clear_cons.2 ⟨rfl, h part hpart⟩

theorem shortened_subset (done : List (List Char)) : shortened done ⊆ done := by
  unfold shortened
  split
  · split
    · exact List.Subset.refl _
    · exact (List.dropLast_sublist done).subset
  · exact List.Subset.refl _

theorem clear_kept {kind : SchemeKind} {done : List (List Char)} {s : List Char} (h : Clear s) :
    Clear (kept kind done s) := by
  unfold kept
  split
  · rw [clear_append]
    exact ⟨h.of_subset (List.take_subset 1 s), by simp [endsPath]⟩
  · exact h

/-- Segments without a mark are added to such segments. -/
theorem clear_addSegments {kind : SchemeKind} {done more : List (List Char)}
    (hdone : ∀ s ∈ done, Clear s) (hmore : ∀ s ∈ more, Clear s) :
    ∀ s ∈ addSegments kind done more, Clear s := by
  have hshort : ∀ {done : List (List Char)}, (∀ s ∈ done, Clear s) →
      ∀ s ∈ shortened done, Clear s := by
    intro done hdone s hs
    exact hdone s (shortened_subset done hs)
  have hconcat : ∀ {done : List (List Char)} {s : List Char}, (∀ s ∈ done, Clear s) → Clear s →
      ∀ t ∈ done ++ [s], Clear t := by
    intro done s hdone hs t ht
    rcases List.mem_append.1 ht with ht | ht
    · exact hdone t ht
    · rw [List.mem_singleton.1 ht]
      exact hs
  induction more generalizing done with
  | nil => exact hdone
  | cons s more ih =>
    have hs := hmore s List.mem_cons_self
    have hrest : ∀ t ∈ more, Clear t := fun t ht => hmore t (List.mem_cons_of_mem s ht)
    cases more with
    | nil =>
      unfold addSegments
      split
      · exact hconcat (hshort hdone) clear_nil
      split
      · exact hconcat hdone clear_nil
      · exact hconcat hdone (clear_kept hs)
    | cons t more =>
      unfold addSegments
      split
      · exact ih (hshort hdone) hrest
      split
      · exact ih hdone hrest
      · exact ih (hconcat hdone (clear_kept hs)) hrest

theorem clear_readSegments (kind : SchemeKind) (cs : List Char) :
    ∀ s ∈ readSegments kind cs, Clear s := by
  unfold readSegments
  apply clear_addSegments
  · nofun
  · intro s hs
    obtain ⟨t, -, rfl⟩ := List.mem_map.1 hs
    exact Percent.clear_encode_of_written rfl rfl t

theorem clear_fileSegments (cs : List Char) : ∀ s ∈ fileSegments cs, Clear s := by
  unfold fileSegments
  dsimp only
  split
  · intro s hs
    rw [List.mem_singleton.1 hs]
    exact clear_nil
  · intro s hs
    exact clear_readSegments .file cs s ((List.dropWhile_sublist _).subset hs)

theorem clear_readPath (kind : SchemeKind) (cs : List Char) : Clear (readPath kind cs).text := by
  unfold readPath
  split
  · apply clear_segments
    split
    · nofun
    · simp
  · exact clear_segments (clear_readSegments _ _)
  · apply clear_segments
    split
    · exact clear_readSegments _ _
    · exact clear_readSegments _ _
  · exact clear_segments (clear_readSegments _ _)

/-! ## Addresses -/

/-- What stands behind the path is no part of the front. -/
theorem Tidy.withTail {u : Url} (h : u.Tidy) (cs : List Char) : (u.withTail cs).Tidy := by
  unfold Url.withTail
  dsimp only
  split
  · exact ⟨h.scheme, h.authority, h.path⟩
  · exact ⟨h.scheme, h.authority, h.path⟩

theorem tidy_of_readHierarchy {scheme cs : List Char} {u : Url} (hscheme : Clear scheme)
    (h : readHierarchy scheme cs = .ok u) : u.Tidy := by
  unfold readHierarchy at h
  dsimp only [bind, Except.bind] at h
  split at h
  · cases h
  · rename_i a hauthority
    cases h
    apply Tidy.withTail
    refine ⟨hscheme, ?_, clear_readPath _ _⟩
    rintro b ⟨⟩
    exact clear_of_readAuthority hauthority

theorem tidy_readBare {scheme : List Char} (cs : List Char) (hscheme : Clear scheme) :
    (readBare scheme cs).Tidy := by
  unfold readBare
  dsimp only
  apply Tidy.withTail
  refine ⟨hscheme, nofun, ?_⟩
  unfold plain
  dsimp only
  split
  · exact clear_segments (clear_readSegments _ _)
  · apply Percent.clear_encode
    intro c hc _
    simpa using List.all_eq_true.1 List.all_takeWhile c hc

theorem tidy_fileUrl {host : Option Host} (cs : List Char)
    (hhost : ∀ h, host = some h → Clear h.text) : (fileUrl host cs).Tidy := by
  have hfile : Clear "file".toList := by decide
  unfold fileUrl
  dsimp only
  apply Tidy.withTail
  refine ⟨hfile, ?_, clear_segments (clear_fileSegments _)⟩
  rintro a ⟨⟩
  apply clear_authority clear_nil clear_nil
  intro k hk
  rw [Option.ite_none_left_eq_some] at hk
  exact hhost k hk.2

theorem clear_of_fileHost {cs : List Char} {host : Host} (h : fileHost cs = .ok (some host)) :
    Clear host.text := by
  unfold fileHost at h
  split at h
  · cases h
  · split at h
    · cases h
    · rename_i k hparse
      split at h
      · cases h
      · cases h
        exact Host.clear_of_parse hparse

theorem tidy_of_readFile {cs : List Char} {u : Url} (h : readFile cs = .ok u) : u.Tidy := by
  unfold readFile at h
  split at h
  · dsimp only at h
    split at h
    · split at h
      · cases h
        exact tidy_fileUrl _ nofun
      · rename_i a b rest _ _
        cases hhost : fileHost (rest.takeWhile fun c => !(isSlash c || endsPath c)) with
        | error e =>
          rw [hhost] at h
          cases h
        | ok host =>
          rw [hhost] at h
          cases h
          apply tidy_fileUrl
          rintro k rfl
          exact clear_of_fileHost hhost
    · cases h
      exact tidy_fileUrl _ nofun
  · cases h
    exact tidy_fileUrl _ nofun

/-- Whatever is read as an address, nothing in front of its query ends the path. -/
theorem tidy_of_parse {cs : List Char} {u : Url} (h : parse cs = .ok u) : u.Tidy := by
  unfold parse at h
  split at h
  · cases h
  · rename_i scheme rest hscheme
    have hclear := clear_of_scheme? hscheme
    split at h
    · exact tidy_of_readFile h
    · exact tidy_of_readHierarchy hclear h
    · exact tidy_of_readHierarchy hclear h
    · cases h
      exact tidy_readBare _ hclear

/-! ## The query in a text -/

/-- The query in the text of an address: what stands between the first question mark in
front of any number sign and that number sign. -/
def queryIn? (cs : List Char) : Option (List Char) :=
  match (cs.takeWhile (· ≠ '#')).dropWhile (· ≠ '?') with
  | [] => none
  | _ :: query => some query

/-- The query is found in the text of an address. -/
theorem queryIn?_text {u : Url} (h : u.Tidy) {query : List Char} (hquery : u.query = some query)
    (hmark : '#' ∉ query) : queryIn? u.text = some query := by
  have hfront : Clear (u.scheme ++ ':' :: (u.front ++ u.path.text)) := by
    have hcolon : endsPath ':' = false := rfl
    simp [h.scheme, hcolon, h.front, h.path]
  have htext : u.text = (u.scheme ++ ':' :: (u.front ++ u.path.text)) ++ '?' :: query
      ++ marked '#' u.fragment := by
    simp [Url.text, hquery, marked]
  generalize u.scheme ++ ':' :: (u.front ++ u.path.text) = front at hfront htext
  have hbefore : ∀ c ∈ front, decide (c ≠ '#') = true ∧ decide (c ≠ '?') = true := by
    intro c hc
    have hc := hfront c hc
    unfold endsPath at hc
    rw [Bool.or_eq_false_iff, decide_eq_false_iff_not, decide_eq_false_iff_not] at hc
    exact ⟨decide_eq_true hc.2, decide_eq_true hc.1⟩
  have hkept : ∀ c ∈ front ++ '?' :: query, decide (c ≠ '#') = true := by
    intro c hc
    rcases List.mem_append.1 hc with hc | hc
    · exact (hbefore c hc).1
    · rcases List.mem_cons.1 hc with rfl | hc
      · rfl
      · rw [decide_eq_true_eq]
        rintro rfl
        exact hmark hc
  have hfragment : (marked '#' u.fragment).takeWhile (· ≠ '#') = [] := by
    unfold marked
    split
    · rfl
    · exact List.takeWhile_cons_of_neg (by simp)
  unfold queryIn?
  rw [htext, List.takeWhile_append_of_pos hkept, hfragment, List.append_nil,
    List.dropWhile_append_of_pos fun c hc => (hbefore c hc).2,
    List.dropWhile_cons_of_neg (by simp)]

end Gatehouse.Url
