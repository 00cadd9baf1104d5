/-
  Gatehouse/Proofs/Url/Hosts.lean --- hosts hold no mark that ends the path.

  However a host was written, its text has neither a question mark nor a number sign in
  it: numbers are written with digits, dots, colons and brackets, and the labels of a name
  hold no forbidden character.  A label that is written behind the mark for other scripts
  holds the ASCII characters of the label that it stands for, and digits.

  Main definition: `Url.Clear`.
  Main statements: `Idna.clear_of_toAscii?`, `Host.clear_of_parse`,
  `Host.clear_of_parseOpaque`.
-/
import Gatehouse.Url.Parser

set_option autoImplicit false

namespace Gatehouse

/-! ## Texts without a mark -/

namespace Url

variable {c : Char} {cs ds : List Char}

/-- A character that a property leaves out is no mark when the property has both marks. -/
theorem endsPath_of_excluded (p : Char → Bool) (question : p '?' = true) (number : p '#' = true)
    (h : p c = false) : endsPath c = false := by
  unfold endsPath
  rw [Bool.or_eq_false_iff, decide_eq_false_iff_not, decide_eq_false_iff_not]
  constructor
  · rintro rfl
    rw [question] at h
    cases h
  · rintro rfl
    rw [number] at h
    cases h

/-- Whether a text holds no mark that ends the path. -/
def Clear (cs : List Char) : Prop := ∀ c ∈ cs, endsPath c = false

instance : Decidable (Clear cs) :=
  decidable_of_iff (cs.all (fun c => !endsPath c) = true) (by simp [Clear])

@[simp] theorem clear_nil : Clear [] := nofun

@[simp] theorem clear_cons : Clear (c :: cs) ↔ endsPath c = false ∧ Clear cs :=
  List.forall_mem_cons

@[simp] theorem clear_append : Clear (cs ++ ds) ↔ Clear cs ∧ Clear ds :=
  List.forall_mem_append

theorem Clear.of_subset (h : Clear ds) (sub : cs ⊆ ds) : Clear cs := fun _ hc => h _ (sub hc)

theorem clear_flatMap {α : Type} {f : α → List Char} {l : List α} :
    Clear (l.flatMap f) ↔ ∀ a ∈ l, Clear (f a) := by
  unfold Clear
  simp only [List.mem_flatMap]
  constructor
  · intro h a ha c hc
    exact h c ⟨a, ha, hc⟩
  · rintro h c ⟨a, ha, hc⟩
    exact h a ha c hc

theorem Clear.intercalate {sep : List Char} {parts : List (List Char)} (hsep : Clear sep)
    (h : ∀ part ∈ parts, Clear part) : Clear (sep.intercalate parts) := by
  induction parts with
  | nil => exact clear_nil
  | cons part parts ih =>
    have hpart := h part List.mem_cons_self
    have hrest := ih fun p hp => h p (List.mem_cons_of_mem part hp)
    cases parts with
    | nil => simpa using hpart
    | cons p parts => simp [hpart, hsep, hrest]

end Url

open Url (Clear endsPath)

/-! ## Digits -/

/-- What is written in a base, the last digit of the number at the end, holds no mark when no
digit is one. -/
theorem Url.clear_written {base : Nat} {digit : Nat → Char} {write : Nat → List Char}
    (two : 2 ≤ base) (unmarked : ∀ n < base, endsPath (digit n) = false)
    (write_eq : ∀ n, write n = if n < base then [digit n]
      else write (n / base) ++ [digit (n % base)]) (n : Nat) : Clear (write n) := by
  induction n using Nat.strongRecOn with
  | ind n ih =>
    rw [write_eq]
    split
    · rename_i small
      exact clear_cons.2 ⟨unmarked n small, clear_nil⟩
    · have shorter : n / base < n := Nat.div_lt_self (by omega) two
      have last := unmarked (n % base) (Nat.mod_lt n (by omega))
      exact clear_append.2 ⟨ih _ shorter, clear_cons.2 ⟨last, clear_nil⟩⟩

theorem Hex.endsPath_digit : ∀ n < 16, endsPath (digit n) = false := by decide

theorem Hex.clear_ofNat : ∀ n, Clear (ofNat n) :=
  Url.clear_written (by decide) endsPath_digit fun n => by rw [ofNat]

theorem Numeral.endsPath_digit : ∀ n < 10, endsPath (digit n) = false := by decide

theorem Numeral.clear_ofNat : ∀ n, Clear (ofNat n) :=
  Url.clear_written (by decide) endsPath_digit fun n => by rw [ofNat]

/-! ## Characters written as bytes -/

namespace Percent

theorem clear_ofByte (b : UInt8) : Clear (ofByte b) := by
  have hdigit : ∀ n < 16, endsPath (Hex.upperDigit n) = false := by decide
  have hb := b.toNat_lt
  have hhigh := hdigit (b.toNat / 16) (by omega)
  have hlow := hdigit (b.toNat % 16) (by omega)
  have hsign : endsPath '%' = false := rfl
  simp [ofByte, hhigh, hlow, hsign]

/-- A text holds no mark when the marks in it are written as bytes. -/
theorem clear_encode {isWritten : Char → Bool} {cs : List Char}
    (h : ∀ c ∈ cs, isWritten c = false → endsPath c = false) : Clear (encode isWritten cs) := by
  unfold encode
  rw [Url.clear_flatMap]
  intro c hc
  split
  · rw [Url.clear_flatMap]
    intro b _
    exact clear_ofByte b
  · rename_i hwritten
    simpa using h c hc (by simpa using hwritten)

/-- A text holds no mark when all marks are written as bytes in it. -/
theorem clear_encode_of_written {isWritten : Char → Bool} (question : isWritten '?' = true)
    (number : isWritten '#' = true) (cs : List Char) : Clear (encode isWritten cs) := by
  apply clear_encode
  intro c _ hkept
  exact Url.endsPath_of_excluded isWritten question number hkept

end Percent

/-! ## Labels -/

namespace Punycode

theorem endsPath_digit : ∀ d < 36, endsPath (digit d) = false := by decide

theorem clear_digits (bias k n : Nat) : Clear (digits bias k n) := by
  induction n using Nat.strongRecOn generalizing k with
  | ind n ih =>
    have hone := one_le_threshold k bias
    have hle := threshold_le k bias
    unfold digits
    dsimp only
    split
    · rename_i hsmall
      simp [endsPath_digit n (by omega)]
    · have hmod : (n - threshold k bias) % (36 - threshold k bias) < 36 - threshold k bias :=
        Nat.mod_lt _ (by omega)
      have hdiv : (n - threshold k bias) / (36 - threshold k bias) ≤ n - threshold k bias :=
        Nat.div_le_self _ _
      rw [Url.clear_cons]
      exact ⟨endsPath_digit _ (by omega), ih _ (by omega) _⟩

theorem Writer.clear_pass {basics n : Nat} {w : Writer} (c : Char) (h : Clear w.written) :
    Clear (w.pass basics n c).written := by
  unfold Writer.pass
  split
  · exact h
  split
  · exact Url.clear_append.2 ⟨h, clear_digits _ _ _⟩
  · exact h

theorem Writer.clear_foldl_pass {basics n : Nat} {w : Writer} (text : List Char)
    (h : Clear w.written) : Clear (text.foldl (Writer.pass basics n) w).written := by
  induction text generalizing w with
  | nil => exact h
  | cons c text ih => exact ih (w.clear_pass c h)

theorem clear_writeFrom {text : List Char} {basics start : Nat} (numbers : List Nat) {w : Writer}
    (h : Clear w.written) : Clear (writeFrom text basics start numbers w).written := by
  induction numbers generalizing start w with
  | nil => exact h
  | cons n numbers ih =>
    unfold writeFrom
    apply ih
    exact Writer.clear_foldl_pass text h

/-- The written form holds characters of the text, a hyphen, and digits. -/
theorem clear_encode {text : List Char} (h : Clear text) : Clear (encode text) := by
  have hbasics : Clear (text.filter isBasic) := h.of_subset (List.filter_sublist.subset)
  unfold encode
  dsimp only
  rw [Url.clear_append]
  constructor
  · split
    · exact Url.clear_nil
    · simp [hbasics, endsPath]
  · exact clear_writeFrom _ Url.clear_nil

/-! ### Reading -/

theorem endsPath_of_value? {c : Char} {n : Nat} (h : value? c = some n) : endsPath c = false := by
  apply Url.endsPath_of_excluded (fun c => (value? c).isNone) rfl rfl
  rw [h]
  rfl

/-- The digits of a distance hold no mark. -/
theorem clear_of_readDistance? {bias : Nat} {cs rest : List Char} {k weight sum n : Nat}
    (h : readDistance? bias cs k weight sum = some (n, rest)) (hrest : Clear rest) : Clear cs := by
  induction cs generalizing k weight sum with
  | nil => exact Url.clear_nil
  | cons c cs ih =>
    simp only [readDistance?, Option.bind_eq_bind, Option.bind_eq_some_iff] at h
    obtain ⟨d, hd, h⟩ := h
    rw [Url.clear_cons]
    refine ⟨endsPath_of_value? hd, ?_⟩
    split at h
    · cases h
    · split at h
      · cases h
        exact hrest
      · split at h
        · cases h
        · exact ih h

/-- What is read into a text keeps its characters, and the digits hold no mark. -/
theorem of_readFrom? {text digits read : List Char} {last place bias : Nat}
    (h : readFrom? text last place bias digits = some read) : text ⊆ read ∧ Clear digits := by
  induction hlength : digits.length using Nat.strongRecOn
    generalizing text last place bias digits with
  | ind length ih =>
    subst hlength
    unfold readFrom? at h
    split at h
    · cases h
      exact ⟨List.Subset.refl _, Url.clear_nil⟩
    · split at h
      · cases h
      · rename_i c cs sum rest hstep
        dsimp only at h
        split at h
        · obtain ⟨hsub, hrest⟩ := ih rest.length (length_readDistance? hstep) h rfl
          refine ⟨fun d hd => hsub ?_, clear_of_readDistance? hstep hrest⟩
          rw [← List.take_append_drop (sum % (text.length + 1)) text, List.mem_append] at hd
          rw [List.mem_append, List.mem_cons]
          rcases hd with hd | hd
          · exact .inl hd
          · exact .inr (.inr hd)
        · cases h

/-- The parts of a written form are all that is in it but the hyphen between them. -/
theorem clear_of_splitBasics {cs : List Char} (hfront : Clear (splitBasics cs).1)
    (htail : Clear (splitBasics cs).2) : Clear cs := by
  unfold splitBasics at hfront htail
  dsimp only at hfront htail
  split at hfront
  · rename_i hempty
    rw [if_pos hempty] at htail
    exact htail
  · rename_i hempty
    rw [if_neg hempty] at htail
    have hsplit : cs = (cs.reverse.dropWhile (· ≠ '-')).reverse
        ++ (cs.reverse.takeWhile (· ≠ '-')).reverse := by
      rw [← List.reverse_append, List.takeWhile_append_dropWhile, List.reverse_reverse]
    have hhead := List.head?_dropWhile_not (fun c => decide (c ≠ '-')) cs.reverse
    generalize (cs.reverse.takeWhile (· ≠ '-')).reverse = tail at hsplit hfront htail
    generalize cs.reverse.dropWhile (· ≠ '-') = back at hsplit hhead
    rw [hsplit, List.length_append, Nat.add_sub_cancel, List.take_left] at hfront
    rw [hsplit, Url.clear_append]
    refine ⟨?_, htail⟩
    cases back with
    | nil => exact Url.clear_nil
    | cons c rest =>
      have hc : c = '-' := by simpa using hhead
      rw [List.reverse_cons, List.dropLast_concat] at hfront
      rw [List.reverse_cons, hc]
      simp [hfront, endsPath]

/-- A written form holds no mark when the text that it stands for holds none. -/
theorem clear_of_decode? {cs text : List Char} (h : decode? cs = some text) (htext : Clear text) :
    Clear cs := by
  unfold decode? at h
  dsimp only at h
  split at h
  · obtain ⟨hsub, hdigits⟩ := of_readFrom? h
    exact clear_of_splitBasics (htext.of_subset hsub) hdigits
  · cases h

end Punycode

namespace Idna

/-- A sound label holds no mark. -/
theorem clear_of_isSound {label : List Char} (h : isSound label = true) : Clear label := by
  unfold isSound at h
  rw [Bool.and_eq_true, Bool.and_eq_true] at h
  have hforbidden : ∀ c ∈ label, isForbidden c = false := by
    simpa using h.1.2
  intro c hc
  exact Url.endsPath_of_excluded isForbidden (by decide) (by decide) (hforbidden c hc)

theorem clear_of_decoded? {tail label : List Char} (h : decoded? tail = some label) :
    Clear tail := by
  unfold decoded? at h
  split at h
  · rw [Option.filter_eq_some_iff] at h
    have hsound : isSound label = true := by
      have h := h.2
      unfold isSoundDecoded at h
      rw [Bool.and_eq_true] at h
      exact h.2
    exact Punycode.clear_of_decode? h.1 (clear_of_isSound hsound)
  · cases h

/-- A label is written without a mark. -/
theorem clear_of_label? {cs : List Char} {label : Label} (h : label? cs = some label) :
    Clear label.written := by
  have hmark : Clear writtenMark := by decide
  unfold label? at h
  split at h
  · rename_i hprefix
    rw [Option.map_eq_some_iff] at h
    obtain ⟨read, hdecoded, rfl⟩ := h
    obtain ⟨tail, rfl⟩ := List.isPrefixOf_iff_prefix.1 hprefix
    rw [List.drop_left] at hdecoded
    exact Url.clear_append.2 ⟨hmark, clear_of_decoded? hdecoded⟩
  · split at h
    · cases h
    · rename_i hsound
      have hclear : Clear cs := clear_of_isSound (by simpa using hsound)
      split at h
      · cases h
        exact hclear
      · split at h
        · cases h
          exact Url.clear_append.2 ⟨hmark, Punycode.clear_encode hclear⟩
        · cases h

theorem exists_of_mem_mapM {α β : Type} {f : α → Option β} {l : List α} {l' : List β} {b : β}
    (h : l.mapM f = some l') (hb : b ∈ l') : ∃ a ∈ l, f a = some b := by
  induction l generalizing l' with
  | nil =>
    cases h
    cases hb
  | cons a l ih =>
    simp only [List.mapM_cons, Option.bind_eq_bind, Option.bind_eq_some_iff] at h
    obtain ⟨c, hc, rest, hrest, hl⟩ := h
    cases hl
    rcases List.mem_cons.1 hb with rfl | hb
    · exact ⟨a, List.mem_cons_self, hc⟩
    · obtain ⟨d, hd, hf⟩ := ih hrest hb
      exact ⟨d, List.mem_cons_of_mem a hd, hf⟩

/-- A domain name is written without a mark. -/
theorem clear_of_toAscii? {name ascii : List Char} (h : toAscii? name = some ascii) :
    Clear ascii := by
  simp only [toAscii?, Option.bind_eq_bind, Option.bind_eq_some_iff] at h
  obtain ⟨mapped, -, labels, hlabels, h⟩ := h
  split at h
  · cases h
  · cases h
    apply Url.Clear.intercalate
    · simp [endsPath]
    · intro part hpart
      obtain ⟨label, hlabel, rfl⟩ := List.mem_map.1 hpart
      obtain ⟨cs, -, hcs⟩ := exists_of_mem_mapM hlabels hlabel
      exact clear_of_label? hcs

end Idna

/-! ## Hosts -/

namespace Host

theorem clear_piecesText (pieces : List Nat) : Clear (piecesText pieces) := by
  unfold piecesText
  apply Url.Clear.intercalate
  · simp [endsPath]
  · intro part hpart
    obtain ⟨n, -, rfl⟩ := List.mem_map.1 hpart
    exact Hex.clear_ofNat n

theorem clear_ipv6 (pieces : List Nat) : Clear (text (.ipv6 pieces)) := by
  have hopen : endsPath '[' = false := rfl
  have hclose : endsPath ']' = false := rfl
  have hcolon : endsPath ':' = false := rfl
  unfold text ipv6Text
  dsimp only
  split
  · simp [hopen, hclose, clear_piecesText]
  · simp [hopen, hclose, hcolon, clear_piecesText]

theorem clear_ipv4 (n : Nat) : Clear (text (.ipv4 n)) := by
  unfold text
  apply Url.Clear.intercalate
  · simp [endsPath]
  · intro part hpart
    obtain ⟨n, -, rfl⟩ := List.mem_map.1 hpart
    exact Numeral.clear_ofNat n

theorem clear_of_parseBracketed {cs : List Char} {host : Host}
    (h : parseBracketed cs = .ok host) : Clear host.text := by
  unfold parseBracketed at h
  split at h
  · split at h
    · cases h
      exact clear_ipv6 _
    · cases h
  · cases h

/-- The host of a scheme that has hosts is written without a mark. -/
theorem clear_of_parse {cs : List Char} {host : Host} (h : parse cs = .ok host) :
    Clear host.text := by
  unfold parse at h
  split at h
  · exact clear_of_parseBracketed h
  · split at h
    · cases h
    · cases h
    · rename_i name _ hname
      split at h
      · split at h
        · cases h
          exact clear_ipv4 _
        · cases h
      · cases h
        exact Idna.clear_of_toAscii? hname

/-- The host of any other scheme is written without a mark. -/
theorem clear_of_parseOpaque {cs : List Char} {host : Host} (h : parseOpaque cs = .ok host) :
    Clear host.text := by
  unfold parseOpaque at h
  split at h
  · exact clear_of_parseBracketed h
  · split at h
    · cases h
    · rename_i hdelimiter
      cases h
      apply Percent.clear_encode
      intro c hc _
      have hfree : isDelimiter c = false := by
        rw [Bool.not_eq_true, List.any_eq_false] at hdelimiter
        simpa using hdelimiter c hc
      exact Url.endsPath_of_excluded isDelimiter (by decide) (by decide) hfree

end Host

end Gatehouse
