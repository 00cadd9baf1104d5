/-
  Gatehouse/Proofs/Text/Forms.lean --- forms and escaped texts are read back.

  Names and values of a form are written so that neither an ampersand, an equals sign nor
  a number sign is left in them, and reading gives them back, whatever characters they
  have.  The same holds for a text inside HTML, whose entities are read back.

  Main definition: `Html.unescape`.
  Main statements: `Form.decodeText_encodeText`, `Form.decode_encode`,
  `Html.unescape_escape`.
-/
import Gatehouse.Proofs.Text.Coding
import Gatehouse.Text.Html
import Gatehouse.Url.Form

set_option autoImplicit false

namespace Gatehouse

/-! ## UTF-8 -/

theorem Utf8.decodeLossy_encode (cs : List Char) : decodeLossy (encode cs) = cs := by
  induction cs with
  | nil => rw [encode_nil, decodeLossy]
  | cons c cs ih =>
    obtain ⟨b, more, hbytes, hlead⟩ := lead_encodeChar c (encode cs)
    rw [encode_cons, hbytes, List.cons_append, decodeLossy, hlead]
    dsimp only
    rw [List.drop_left, ih, Option.getD_some]

/-! ## Percent signs -/

namespace Percent

theorem decode_cons_of_ne {b : UInt8} (h : b ≠ 0x25) (rest : List UInt8) :
    decode (b :: rest) = b :: decode rest := by
  match rest with
  | [] => rfl
  | [c] => rfl
  | c :: d :: rest => rw [decode, if_neg h]

/-- The bytes of what a byte is written as. -/
theorem encode_ofByte (b : UInt8) :
    Utf8.encode (ofByte b) = [0x25, (Hex.upperDigit (b.toNat / 16)).toNat.toUInt8,
      (Hex.upperDigit (b.toNat % 16)).toNat.toUInt8] := by
  have hdigit : ∀ n < 16, (Hex.upperDigit n).toNat < 0x80 := by decide
  have hb := b.toNat_lt
  have hhigh := hdigit (b.toNat / 16) (by omega)
  have hlow := hdigit (b.toNat % 16) (by omega)
  simp only [ofByte, Utf8.encode_cons, Utf8.encode_nil, Utf8.encodeChar_of_lt hhigh,
    Utf8.encodeChar_of_lt hlow, List.cons_append, List.nil_append]
  rfl

theorem digit?_upperDigit : ∀ n < 16, digit? (Hex.upperDigit n).toNat.toUInt8 = some n := by decide

/-- A byte that is written is read back. -/
theorem decode_ofByte (b : UInt8) (rest : List UInt8) :
    decode (Utf8.encode (ofByte b) ++ rest) = b :: decode rest := by
  have hb := b.toNat_lt
  have hhigh := digit?_upperDigit (b.toNat / 16) (by omega)
  have hlow := digit?_upperDigit (b.toNat % 16) (by omega)
  have hvalue : (b.toNat / 16 * 16 + b.toNat % 16).toUInt8 = b := toUInt8_eq (by omega)
  rw [encode_ofByte]
  simp only [List.cons_append, List.nil_append]
  rw [decode, if_pos rfl, hhigh, hlow]
  dsimp only
  rw [hvalue]

end Percent

/-! ## Forms -/

namespace Form

/-- The blank that a plus sign stands for. -/
def unplus (c : Char) : Char := if c = '+' then ' ' else c

theorem decodeText_eq (cs : List Char) :
    decodeText cs = Utf8.decodeLossy (Percent.decode (Utf8.encode (cs.map unplus))) := rfl

theorem encode_plain : ∀ n < 256, isPlain n.toUInt8 = true →
    n.toUInt8 ≠ 0x25 ∧ Utf8.encode ([Char.ofNat n].map unplus) = [n.toUInt8] := by
  decide +kernel

theorem map_unplus_ofByte : ∀ n < 256,
    (Percent.ofByte n.toUInt8).map unplus = Percent.ofByte n.toUInt8 := by
  decide +kernel

/-- A byte of a name or value is read back. -/
theorem decode_ofByte (b : UInt8) (rest : List UInt8) :
    Percent.decode (Utf8.encode ((ofByte b).map unplus) ++ rest) = b :: Percent.decode rest := by
  have hbyte : b.toNat.toUInt8 = b := toUInt8_eq rfl
  unfold ofByte
  split
  · rename_i hplain
    have hencode := encode_plain b.toNat b.toNat_lt
    rw [hbyte] at hencode
    obtain ⟨hne, hself⟩ := hencode hplain
    rw [hself]
    exact Percent.decode_cons_of_ne hne rest
  · split
    · rename_i hblank
      rw [hblank]
      exact Percent.decode_cons_of_ne (by decide) rest
    · have hwritten := map_unplus_ofByte b.toNat b.toNat_lt
      rw [hbyte] at hwritten
      rw [hwritten]
      exact Percent.decode_ofByte b rest

/-- The bytes of a name or value are read back. -/
theorem decode_flatMap_ofByte (bs : List UInt8) :
    Percent.decode (Utf8.encode ((bs.flatMap ofByte).map unplus)) = bs := by
  induction bs with
  | nil => rfl
  | cons b bs ih =>
    rw [List.flatMap_cons, List.map_append, Utf8.encode_append, decode_ofByte, ih]

/-- A name or value is read back. -/
theorem decodeText_encodeText (cs : List Char) : decodeText (encodeText cs) = cs := by
  rw [decodeText_eq, encodeText, decode_flatMap_ofByte, Utf8.decodeLossy_encode]

/-- What ends a name, a pair or the form. -/
def isMark (c : Char) : Bool := c = '=' || c = '&' || c = '#'

theorem isMark_ofByte : ∀ n < 256, (ofByte n.toUInt8).all (fun c => !isMark c) = true := by
  decide +kernel

theorem isMark_of_mem_encodeText {cs : List Char} {c : Char} (h : c ∈ encodeText cs) :
    isMark c = false := by
  unfold encodeText at h
  obtain ⟨b, -, hc⟩ := List.mem_flatMap.1 h
  have hbyte : b.toNat.toUInt8 = b := toUInt8_eq rfl
  rw [← hbyte] at hc
  have hfree := List.all_eq_true.1 (isMark_ofByte b.toNat b.toNat_lt) c hc
  simpa using hfree

/-- A pair has one equals sign, and no other mark. -/
theorem isMark_of_mem_encodePair {p : Pair} {c : Char} (h : c ∈ encodePair p) :
    c = '=' ∨ isMark c = false := by
  unfold encodePair at h
  simp only [List.mem_append, List.mem_cons] at h
  rcases h with h | h | h
  · exact .inr (isMark_of_mem_encodeText h)
  · exact .inl h
  · exact .inr (isMark_of_mem_encodeText h)

theorem decodePair_encodePair (p : Pair) : decodePair (encodePair p) = p := by
  have hname : ∀ c ∈ encodeText p.1, decide (c ≠ '=') = true := by
    intro c hc
    have hmark := isMark_of_mem_encodeText hc
    simp only [isMark, Bool.or_eq_false_iff, decide_eq_false_iff_not] at hmark
    exact decide_eq_true hmark.1.1
  unfold decodePair encodePair
  rw [List.takeWhile_append_of_pos hname, List.dropWhile_append_of_pos hname,
    List.takeWhile_cons_of_neg (by simp), List.dropWhile_cons_of_neg (by simp),
    List.append_nil, List.drop_one, List.tail_cons, decodeText_encodeText, decodeText_encodeText]

theorem encode_eq_intercalate (pairs : List Pair) :
    encode pairs = ['&'].intercalate (pairs.map encodePair) := by
  induction pairs with
  | nil => rfl
  | cons p pairs ih =>
    cases pairs with
    | nil => simp [encode]
    | cons q pairs =>
      rw [encode, ih]
      · simp
      · simp

/-- The pairs of a form are read back. -/
theorem decode_encode (pairs : List Pair) : decode (encode pairs) = pairs := by
  cases pairs with
  | nil => rfl
  | cons p pairs =>
    have hamp : ∀ part ∈ (p :: pairs).map encodePair, '&' ∉ part := by
      intro part hpart hmem
      obtain ⟨q, -, rfl⟩ := List.mem_map.1 hpart
      rcases isMark_of_mem_encodePair hmem with h | h
      · exact absurd h (by decide)
      · exact absurd h (by decide)
    have hfull : ∀ part ∈ (p :: pairs).map encodePair, (!part.isEmpty) = true := by
      intro part hpart
      obtain ⟨q, -, rfl⟩ := List.mem_map.1 hpart
      simp [encodePair]
    unfold decode
    rw [encode_eq_intercalate, List.splitOn_intercalate '&' hamp (by simp),
      List.filter_eq_self.2 hfull, List.map_map]
    have hpair : decodePair ∘ encodePair = id := funext decodePair_encodePair
    rw [hpair, List.map_id]

/-- A form has no number sign. -/
theorem ne_of_mem_encode {pairs : List Pair} {c : Char} (h : c ∈ encode pairs) : c ≠ '#' := by
  rintro rfl
  induction pairs with
  | nil => cases h
  | cons p pairs ih =>
    have hpair : '#' ∉ encodePair p := by
      intro h
      rcases isMark_of_mem_encodePair h with h | h
      · exact absurd h (by decide)
      · exact absurd h (by decide)
    cases pairs with
    | nil => exact hpair h
    | cons q pairs =>
      rw [encode] at h
      · simp only [List.mem_append, List.mem_cons] at h
        rcases h with h | h | h
        · exact hpair h
        · exact absurd h (by decide)
        · exact ih h
      · simp

end Form

/-! ## HTML -/

namespace Html

/-- A text with the five entities read; everything else stands for itself. -/
def unescape : List Char → List Char
  | '&' :: 'a' :: 'm' :: 'p' :: ';' :: cs => '&' :: unescape cs
  | '&' :: 'l' :: 't' :: ';' :: cs => '<' :: unescape cs
  | '&' :: 'g' :: 't' :: ';' :: cs => '>' :: unescape cs
  | '&' :: 'q' :: 'u' :: 'o' :: 't' :: ';' :: cs => '"' :: unescape cs
  | '&' :: '#' :: '3' :: '9' :: ';' :: cs => '\'' :: unescape cs
  | c :: cs => c :: unescape cs
  | [] => []

theorem unescape_cons {c : Char} (h : c ≠ '&') (cs : List Char) :
    unescape (c :: cs) = c :: unescape cs := by
  rw [unescape]
  all_goals
    intros
    contradiction

/-- A text inside HTML is read back. -/
theorem unescape_escape (cs : List Char) : unescape (escape cs) = cs := by
  induction cs with
  | nil => rfl
  | cons c cs ih =>
    change unescape (escapeChar c ++ escape cs) = c :: cs
    unfold escapeChar
    repeat' split
    · rename_i h
      simp [unescape, ih, h]
    · rename_i h
      simp [unescape, ih, h]
    · rename_i h
      simp [unescape, ih, h]
    · rename_i h
      simp [unescape, ih, h]
    · rename_i h
      simp [unescape, ih, h]
    · rename_i hamp _ _ _ _
      rw [List.singleton_append, unescape_cons hamp, ih]

/-- An escaped text does not end an attribute. -/
theorem ne_of_mem_escape {cs : List Char} {c : Char} (h : c ∈ escape cs) : c ≠ '"' := by
  rintro rfl
  unfold escape at h
  obtain ⟨d, -, hd⟩ := List.mem_flatMap.1 h
  unfold escapeChar at hd
  repeat' split at hd
  all_goals simp at hd
  rename_i h _
  exact h hd.symm

end Html

end Gatehouse
