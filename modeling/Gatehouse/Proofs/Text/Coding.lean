/-
  Gatehouse/Proofs/Text/Coding.lean --- what was written is what is read.

  Two codings are inverted here: bytes as the letters of base64 for URLs, and
  characters as the bytes of UTF-8.  For the letters both directions hold, since
  reading is strict: each byte sequence has one spelling.

  Main statements: `Base64Url.decode?_eq_some_iff`, `Utf8.decode?_encode`.
-/
import Gatehouse.Text.Base64Url
import Gatehouse.Text.Utf8

set_option autoImplicit false

namespace Gatehouse

/-! ## Bytes -/

theorem toNat_toUInt8 {n : Nat} (h : n < 256) : n.toUInt8.toNat = n :=
  UInt8.toNat_ofNat_of_lt' h

theorem toUInt8_eq {n : Nat} {a : UInt8} (h : n = a.toNat) : n.toUInt8 = a := by
  rw [h]
  exact UInt8.ofNat_toNat

/-! ## Base64 for URLs -/

namespace Base64Url

theorem value?_lt {c : Char} {n : Nat} (h : value? c = some n) : n < 64 := by
  simp only [value?] at h
  split at h
  · cases h; omega
  split at h
  · cases h; omega
  split at h
  · cases h; omega
  split at h
  · cases h; omega
  split at h
  · cases h; omega
  · cases h

/-- A number has no letter but its own. -/
theorem letter_value? {c : Char} {n : Nat} (h : value? c = some n) : letter n = c := by
  have hofNat : ∀ k, k = c.toNat → Char.ofNat k = c := by
    rintro k rfl
    exact Char.ofNat_toNat c
  simp only [value?] at h
  split at h
  · cases h
    rw [letter, if_pos (by omega)]
    exact hofNat _ (by omega)
  split at h
  · cases h
    rw [letter, if_neg (by omega), if_pos (by omega)]
    exact hofNat _ (by omega)
  split at h
  · cases h
    rw [letter, if_neg (by omega), if_neg (by omega), if_pos (by omega)]
    exact hofNat _ (by omega)
  split at h
  · rename_i hdash
    cases h
    rw [hdash]
    rfl
  split at h
  · rename_i hunderscore
    cases h
    rw [hunderscore]
    rfl
  · cases h

theorem decode?_encode (bs : List UInt8) : decode? (encode bs) = some bs := by
  fun_induction encode bs with
  | case1 => rfl
  | case2 a =>
    have ha := a.toNat_lt
    simp only [decode?]
    rw [value?_letter _ (by omega), value?_letter _ (by omega)]
    simp only [Option.bind_eq_bind, Option.bind_some]
    rw [if_pos (by omega), toUInt8_eq (a := a) (by omega)]
  | case3 a b =>
    have ha := a.toNat_lt
    have hb := b.toNat_lt
    simp only [decode?]
    rw [value?_letter _ (by omega), value?_letter _ (by omega), value?_letter _ (by omega)]
    simp only [Option.bind_eq_bind, Option.bind_some]
    rw [if_pos (by omega), toUInt8_eq (a := a) (by omega), toUInt8_eq (a := b) (by omega)]
  | case4 a b c rest ih =>
    have ha := a.toNat_lt
    have hb := b.toNat_lt
    have hc := c.toNat_lt
    simp only [decode?]
    rw [value?_letter _ (by omega), value?_letter _ (by omega), value?_letter _ (by omega),
      value?_letter _ (by omega), ih]
    simp only [Option.bind_eq_bind, Option.bind_some]
    rw [toUInt8_eq (a := a) (by omega), toUInt8_eq (a := b) (by omega),
      toUInt8_eq (a := c) (by omega)]

/-- Letters that are read are the ones that are written. -/
theorem encode_of_decode? {cs : List Char} {bs : List UInt8} (h : decode? cs = some bs) :
    encode bs = cs := by
  fun_induction decode? cs generalizing bs with
  | case1 => cases h; rfl
  | case2 => cases h
  | case3 a b =>
    simp only [Option.bind_eq_bind, Option.bind_eq_some_iff, Option.ite_none_right_eq_some] at h
    obtain ⟨x, hx, y, hy, unused, h⟩ := h
    obtain rfl := Option.some.inj h
    have hxlt := value?_lt hx
    have hylt := value?_lt hy
    have hfirst : (x * 4 + y / 16) / 4 = x := by omega
    have hsecond : (x * 4 + y / 16) % 4 * 16 = y := by omega
    rw [encode, toNat_toUInt8 (by omega), hfirst, hsecond, letter_value? hx, letter_value? hy]
  | case4 a b c =>
    simp only [Option.bind_eq_bind, Option.bind_eq_some_iff, Option.ite_none_right_eq_some] at h
    obtain ⟨x, hx, y, hy, z, hz, unused, h⟩ := h
    obtain rfl := Option.some.inj h
    have hxlt := value?_lt hx
    have hylt := value?_lt hy
    have hzlt := value?_lt hz
    have hfirst : (x * 4 + y / 16) / 4 = x := by omega
    have hsecond : (x * 4 + y / 16) % 4 * 16 + (y % 16 * 16 + z / 4) / 16 = y := by omega
    have hthird : (y % 16 * 16 + z / 4) % 16 * 4 = z := by omega
    rw [encode, toNat_toUInt8 (by omega), toNat_toUInt8 (by omega), hfirst, hsecond, hthird,
      letter_value? hx, letter_value? hy, letter_value? hz]
  | case5 a b c d rest ih =>
    simp only [Option.bind_eq_bind, Option.bind_eq_some_iff] at h
    obtain ⟨x, hx, y, hy, z, hz, w, hw, more, hmore, h⟩ := h
    obtain rfl := Option.some.inj h
    have hxlt := value?_lt hx
    have hylt := value?_lt hy
    have hzlt := value?_lt hz
    have hwlt := value?_lt hw
    have hfirst : (x * 4 + y / 16) / 4 = x := by omega
    have hsecond : (x * 4 + y / 16) % 4 * 16 + (y % 16 * 16 + z / 4) / 16 = y := by omega
    have hthird : (y % 16 * 16 + z / 4) % 16 * 4 + (z % 4 * 64 + w) / 64 = z := by omega
    have hfourth : (z % 4 * 64 + w) % 64 = w := by omega
    rw [encode, ih hmore, toNat_toUInt8 (by omega), toNat_toUInt8 (by omega),
      toNat_toUInt8 (by omega), hfirst, hsecond, hthird, hfourth, letter_value? hx,
      letter_value? hy, letter_value? hz, letter_value? hw]

/-- Each byte sequence has one spelling. -/
theorem decode?_eq_some_iff {cs : List Char} {bs : List UInt8} :
    decode? cs = some bs ↔ cs = encode bs := by
  constructor
  · intro h
    exact (encode_of_decode? h).symm
  · rintro rfl
    exact decode?_encode bs

theorem exists_letter_of_mem_encode {bs : List UInt8} {c : Char} (h : c ∈ encode bs) :
    ∃ n < 64, c = letter n := by
  fun_induction encode bs with
  | case1 => cases h
  | case2 a =>
    have ha := a.toNat_lt
    simp only [List.mem_cons, List.not_mem_nil, or_false] at h
    rcases h with rfl | rfl
    · exact ⟨_, by omega, rfl⟩
    · exact ⟨_, by omega, rfl⟩
  | case3 a b =>
    have ha := a.toNat_lt
    have hb := b.toNat_lt
    simp only [List.mem_cons, List.not_mem_nil, or_false] at h
    rcases h with rfl | rfl | rfl
    · exact ⟨_, by omega, rfl⟩
    · exact ⟨_, by omega, rfl⟩
    · exact ⟨_, by omega, rfl⟩
  | case4 a b c rest ih =>
    have ha := a.toNat_lt
    have hb := b.toNat_lt
    have hc := c.toNat_lt
    simp only [List.mem_cons] at h
    rcases h with rfl | rfl | rfl | rfl | h
    · exact ⟨_, by omega, rfl⟩
    · exact ⟨_, by omega, rfl⟩
    · exact ⟨_, by omega, rfl⟩
    · exact ⟨_, by omega, rfl⟩
    · exact ih h

theorem letter_ne_dot : ∀ n < 64, letter n ≠ '.' := by decide

theorem dot_notMem_encode (bs : List UInt8) : '.' ∉ encode bs := by
  intro h
  obtain ⟨n, hn, hdot⟩ := exists_letter_of_mem_encode h
  exact letter_ne_dot n hn hdot.symm

end Base64Url

/-! ## UTF-8 -/

namespace Utf8

theorem within_eq_true_iff {lo hi b : UInt8} :
    within lo hi b = true ↔ lo.toNat ≤ b.toNat ∧ b.toNat ≤ hi.toNat := by
  simp only [within, Bool.and_eq_true, decide_eq_true_eq, UInt8.le_iff_toNat_le]

theorem within_eq_false {lo hi b : UInt8} (h : hi.toNat < b.toNat) : within lo hi b = false := by
  rw [← Bool.not_eq_true, within_eq_true_iff]
  omega

theorem not_lt_of_toNat_le {a b : UInt8} (h : a.toNat ≤ b.toNat) : ¬ b < a := by
  rw [UInt8.lt_iff_toNat_lt]
  omega

section

variable {n : Nat} {b c d e : UInt8}

/-- The second of three bytes keeps to the bounds that the first one sets: the number has
no shorter spelling and is no surrogate. -/
theorem within_secondBounds_of_three (lo : 0x800 ≤ n) (hi : n < 0x10000)
    (scalar : n < 0xD800 ∨ 0xDFFF < n) (hb : b.toNat = 0xE0 + n / 4096)
    (hc : c.toNat = 0x80 + n / 64 % 64) :
    within (secondBounds b).1 (secondBounds b).2 c = true := by
  rw [within_eq_true_iff]
  simp only [secondBounds, ← UInt8.toNat_inj, hb, hc]
  split
  · simp only [UInt8.reduceToNat] at *; omega
  split
  · simp only [UInt8.reduceToNat] at *; omega
  split
  · simp only [UInt8.reduceToNat] at *; omega
  split
  · simp only [UInt8.reduceToNat] at *; omega
  · simp only [UInt8.reduceToNat] at *; omega

/-- The second of four bytes keeps to the bounds that the first one sets: the number has
no shorter spelling and is that of a code point. -/
theorem within_secondBounds_of_four (lo : 0x10000 ≤ n) (hi : n < 0x110000)
    (hb : b.toNat = 0xF0 + n / 262144) (hc : c.toNat = 0x80 + n / 4096 % 64) :
    within (secondBounds b).1 (secondBounds b).2 c = true := by
  rw [within_eq_true_iff]
  simp only [secondBounds, ← UInt8.toNat_inj, hb, hc]
  split
  · simp only [UInt8.reduceToNat] at *; omega
  split
  · simp only [UInt8.reduceToNat] at *; omega
  split
  · simp only [UInt8.reduceToNat] at *; omega
  split
  · simp only [UInt8.reduceToNat] at *; omega
  · simp only [UInt8.reduceToNat] at *; omega

theorem lead_one (rest : List UInt8) (hi : n < 0x80) (hb : b.toNat = n) :
    lead b rest = ⟨some (Char.ofNat n), 0, false⟩ := by
  have hlow : b < 0x80 := by
    rw [UInt8.lt_iff_toNat_lt, hb]
    exact hi
  simp only [lead, hlow, if_true, hb]

theorem lead_two (rest : List UInt8) (lo : 0x80 ≤ n) (hi : n < 0x800)
    (hb : b.toNat = 0xC0 + n / 64) (hc : c.toNat = 0x80 + n % 64) :
    lead b (c :: rest) = ⟨some (Char.ofNat n), 1, false⟩ := by
  have hlow : ¬ b < 0x80 := not_lt_of_toNat_le (by simp only [UInt8.reduceToNat]; omega)
  have hfirst : within 0xC2 0xDF b = true :=
    within_eq_true_iff.2 (by simp only [UInt8.reduceToNat]; omega)
  have hsecond : continues c = true :=
    within_eq_true_iff.2 (by simp only [UInt8.reduceToNat]; omega)
  have hvalue : (b.toNat - 0xC0) * 64 + (c.toNat - 0x80) = n := by omega
  simp only [lead, hlow, hfirst, hsecond, hvalue, if_true, if_false]

theorem lead_three (rest : List UInt8) (lo : 0x800 ≤ n) (hi : n < 0x10000)
    (scalar : n < 0xD800 ∨ 0xDFFF < n) (hb : b.toNat = 0xE0 + n / 4096)
    (hc : c.toNat = 0x80 + n / 64 % 64) (hd : d.toNat = 0x80 + n % 64) :
    lead b (c :: d :: rest) = ⟨some (Char.ofNat n), 2, false⟩ := by
  have hlow : ¬ b < 0x80 := not_lt_of_toNat_le (by simp only [UInt8.reduceToNat]; omega)
  have htwo : within 0xC2 0xDF b = false :=
    within_eq_false (by simp only [UInt8.reduceToNat]; omega)
  have hfirst : within 0xE0 0xEF b = true :=
    within_eq_true_iff.2 (by simp only [UInt8.reduceToNat]; omega)
  have hsecond := within_secondBounds_of_three lo hi scalar hb hc
  have hthird : continues d = true :=
    within_eq_true_iff.2 (by simp only [UInt8.reduceToNat]; omega)
  have hvalue : (b.toNat - 0xE0) * 4096 + (c.toNat - 0x80) * 64 + (d.toNat - 0x80) = n := by omega
  simp only [lead, hlow, htwo, hfirst, hsecond, hthird, hvalue, if_true, if_false,
    Bool.false_eq_true]

theorem lead_four (rest : List UInt8) (lo : 0x10000 ≤ n) (hi : n < 0x110000)
    (hb : b.toNat = 0xF0 + n / 262144) (hc : c.toNat = 0x80 + n / 4096 % 64)
    (hd : d.toNat = 0x80 + n / 64 % 64) (he : e.toNat = 0x80 + n % 64) :
    lead b (c :: d :: e :: rest) = ⟨some (Char.ofNat n), 3, false⟩ := by
  have hlow : ¬ b < 0x80 := not_lt_of_toNat_le (by simp only [UInt8.reduceToNat]; omega)
  have htwo : within 0xC2 0xDF b = false :=
    within_eq_false (by simp only [UInt8.reduceToNat]; omega)
  have hthree : within 0xE0 0xEF b = false :=
    within_eq_false (by simp only [UInt8.reduceToNat]; omega)
  have hfirst : within 0xF0 0xF4 b = true :=
    within_eq_true_iff.2 (by simp only [UInt8.reduceToNat]; omega)
  have hsecond := within_secondBounds_of_four lo hi hb hc
  have hthird : continues d = true :=
    within_eq_true_iff.2 (by simp only [UInt8.reduceToNat]; omega)
  have hfourth : continues e = true :=
    within_eq_true_iff.2 (by simp only [UInt8.reduceToNat]; omega)
  have hvalue : (b.toNat - 0xF0) * 262144 + (c.toNat - 0x80) * 4096 + (d.toNat - 0x80) * 64
      + (e.toNat - 0x80) = n := by omega
  simp only [lead, hlow, htwo, hthree, hfirst, hsecond, hthird, hfourth, hvalue, if_true,
    if_false, Bool.false_eq_true]

end

/-- A character stands at the front of its own bytes, whatever follows them. -/
theorem lead_encodeChar (c : Char) (rest : List UInt8) :
    ∃ b more, encodeChar c = b :: more
      ∧ lead b (more ++ rest) = ⟨some c, more.length, false⟩ := by
  have hscalar : c.toNat < 0xD800 ∨ 0xDFFF < c.toNat ∧ c.toNat < 0x110000 := c.valid
  simp only [encodeChar]
  split
  · have hlead := lead_one (n := c.toNat) rest (by omega) (toNat_toUInt8 (by omega))
    rw [Char.ofNat_toNat] at hlead
    exact ⟨_, _, rfl, hlead⟩
  split
  · have hlead := lead_two (n := c.toNat) rest (by omega) (by omega)
      (toNat_toUInt8 (by omega)) (toNat_toUInt8 (by omega))
    rw [Char.ofNat_toNat] at hlead
    exact ⟨_, _, rfl, hlead⟩
  split
  · have hlead := lead_three (n := c.toNat) rest (by omega) (by omega) (by omega)
      (toNat_toUInt8 (by omega)) (toNat_toUInt8 (by omega)) (toNat_toUInt8 (by omega))
    rw [Char.ofNat_toNat] at hlead
    exact ⟨_, _, rfl, hlead⟩
  · have hlead := lead_four (n := c.toNat) rest (by omega) (by omega)
      (toNat_toUInt8 (by omega)) (toNat_toUInt8 (by omega)) (toNat_toUInt8 (by omega))
      (toNat_toUInt8 (by omega))
    rw [Char.ofNat_toNat] at hlead
    exact ⟨_, _, rfl, hlead⟩

theorem decode?_encode (cs : List Char) : decode? (encode cs) = some cs := by
  induction cs with
  | nil => rw [encode_nil, decode?]
  | cons c cs ih =>
    obtain ⟨b, more, hbytes, hlead⟩ := lead_encodeChar c (encode cs)
    rw [encode_cons, hbytes, List.cons_append, decode?, hlead]
    dsimp only
    rw [List.drop_left, ih]
    rfl

theorem string?_bytes (s : String) : string? (bytes s) = some s := by
  rw [string?, bytes, decode?_encode, Option.map_some, String.ofList_toList]

theorem encodeChar_of_lt {c : Char} (h : c.toNat < 0x80) : encodeChar c = [c.toNat.toUInt8] := by
  rw [encodeChar, if_pos h]

/-- A character outside ASCII has no byte inside it. -/
theorem le_of_mem_encodeChar {c : Char} (h : 0x80 ≤ c.toNat) {b : UInt8}
    (hb : b ∈ encodeChar c) : 0x80 ≤ b.toNat := by
  have hscalar : c.toNat < 0xD800 ∨ 0xDFFF < c.toNat ∧ c.toNat < 0x110000 := c.valid
  have hbyte : ∀ {n : Nat}, 0x80 ≤ n → n < 256 → 0x80 ≤ n.toUInt8.toNat := by
    intro n lo hi
    rwa [toNat_toUInt8 hi]
  rw [encodeChar, if_neg (Nat.not_lt.2 h)] at hb
  split at hb
  · simp only [List.mem_cons, List.not_mem_nil, or_false] at hb
    rcases hb with rfl | rfl
    · exact hbyte (by omega) (by omega)
    · exact hbyte (by omega) (by omega)
  split at hb
  · simp only [List.mem_cons, List.not_mem_nil, or_false] at hb
    rcases hb with rfl | rfl | rfl
    · exact hbyte (by omega) (by omega)
    · exact hbyte (by omega) (by omega)
    · exact hbyte (by omega) (by omega)
  · simp only [List.mem_cons, List.not_mem_nil, or_false] at hb
    rcases hb with rfl | rfl | rfl | rfl
    · exact hbyte (by omega) (by omega)
    · exact hbyte (by omega) (by omega)
    · exact hbyte (by omega) (by omega)
    · exact hbyte (by omega) (by omega)

end Utf8

end Gatehouse
