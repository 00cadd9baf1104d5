/-
  Gatehouse/Proofs/Text/Identifiers.lean --- digits and identifiers that read back.

  A byte is two hexadecimal digits, so bytes that are written alike are the same.  The
  text of an identifier names no other one: it reads back as the identifier that it was
  written for.

  Main statements: `Hex.encode_inj`, `Hex.read?_fixed`, `Uuid.parse?_text`.
-/
import Gatehouse.Proofs.Text.Coding
import Gatehouse.Uuid
import Mathlib.Algebra.Group.Nat.Defs

set_option autoImplicit false

namespace Gatehouse

/-! ## Digits -/

namespace Hex

theorem digit_inj {m n : Nat} (hm : m < 16) (hn : n < 16) : digit m = digit n ↔ m = n := by
  constructor
  · intro h
    have hvalue : value? (digit m) = value? (digit n) := congrArg value? h
    rw [value?_digit m hm, value?_digit n hn] at hvalue
    exact Option.some.inj hvalue
  · exact congrArg digit

theorem toNat_digit_lt : ∀ n < 16, (digit n).toNat < 0x80 := by decide

/-- A byte is known from its two digits. -/
theorem ofByte_inj {a b : UInt8} (h : ofByte a = ofByte b) : a = b := by
  have ha := a.toNat_lt
  have hb := b.toNat_lt
  simp only [ofByte, List.cons.injEq, and_true] at h
  have hhigh := (digit_inj (by omega) (by omega)).1 h.1
  have hlow := (digit_inj (by omega) (by omega)).1 h.2
  apply UInt8.toNat_inj.1
  omega

/-- Bytes that are written alike are the same. -/
theorem encode_inj {as bs : List UInt8} : encode as = encode bs ↔ as = bs := by
  constructor
  · intro h
    induction as generalizing bs with
    | nil =>
      cases bs with
      | nil => rfl
      | cons b bs => simp [encode, ofByte] at h
    | cons a as ih =>
      cases bs with
      | nil => simp [encode, ofByte] at h
      | cons b bs =>
        have hparts : ofByte a ++ encode as = ofByte b ++ encode bs := h
        obtain ⟨hbyte, hrest⟩ := List.append_inj hparts rfl
        rw [ofByte_inj hbyte, ih hrest]
  · exact congrArg encode

theorem read?_append_digit {cs : List Char} {m n : Nat} (h : read? cs = some m) (hn : n < 16) :
    read? (cs ++ [digit n]) = some (m * 16 + n) := by
  unfold read? at h ⊢
  rw [List.foldlM_append, h]
  simp [value?_digit n hn]

/-- The last digits of a number read back as what is left of it. -/
theorem read?_fixed (width n : Nat) : read? (fixed width n) = some (n % 16 ^ width) := by
  induction width generalizing n with
  | zero => simp [fixed, read?, Nat.mod_one]
  | succ w ih =>
    rw [fixed, read?_append_digit (ih (n / 16)) (Nat.mod_lt n (by decide))]
    rw [Nat.pow_succ, Nat.mul_comm (16 ^ w) 16, Nat.mod_mul]
    congr 1
    omega

theorem toNat_lt_of_mem_fixed {width n : Nat} {c : Char} (h : c ∈ fixed width n) :
    c.toNat < 0x80 := by
  induction width generalizing n with
  | zero => cases h
  | succ w ih =>
    rw [fixed, List.mem_append, List.mem_singleton] at h
    rcases h with h | rfl
    · exact ih h
    · exact toNat_digit_lt _ (Nat.mod_lt n (by decide))

end Hex

/-! ## Lengths in bytes -/

/-- In ASCII each character is one byte. -/
theorem Utf8.length_encode_of_ascii {cs : List Char} (h : ∀ c ∈ cs, c.toNat < 0x80) :
    (encode cs).length = cs.length := by
  induction cs with
  | nil => rfl
  | cons c cs ih =>
    have hc := h c List.mem_cons_self
    have hrest := ih fun d hd => h d (List.mem_cons_of_mem _ hd)
    rw [encode_cons, encodeChar_of_lt hc, List.length_append, hrest]
    simp [Nat.add_comm]

/-! ## Identifiers -/

namespace Uuid

theorem length_digits (u : Uuid) : u.digits.length = 32 := Hex.length_fixed 32 _

theorem ofDigits?_digits (u : Uuid) : ofDigits? u.digits = some u := by
  have hlt : u.bits.toNat < 16 ^ 32 := u.bits.isLt
  rw [ofDigits?, if_pos u.length_digits, digits, Hex.read?_fixed, Nat.mod_eq_of_lt hlt]
  simp

/-- Five groups are read as the digits that they are made of. -/
theorem ofGroups?_hyphenated {a b c d e : List Char} (ha : a.length = 8) (hb : b.length = 4)
    (hc : c.length = 4) (hd : d.length = 4) (he : e.length = 12) :
    ofGroups? (a ++ '-' :: (b ++ '-' :: (c ++ '-' :: (d ++ '-' :: e))))
      = ofDigits? (a ++ b ++ c ++ d ++ e) := by
  simp [ofGroups?, List.drop_append, List.drop_of_length_le, ha, hb, hc, hd, he]

theorem ofGroups?_chars (u : Uuid) : ofGroups? u.chars = some u := by
  have hlen := u.length_digits
  unfold chars
  rw [ofGroups?_hyphenated (by simp [hlen]) (by simp [hlen]) (by simp [hlen]) (by simp [hlen])
    (by simp [hlen])]
  have hjoin : u.digits.take 8 ++ (u.digits.drop 8).take 4 ++ (u.digits.drop 12).take 4
      ++ (u.digits.drop 16).take 4 ++ u.digits.drop 20 = u.digits := by
    have hstep : ∀ n, (u.digits.drop n).take 4 ++ u.digits.drop (n + 4) = u.digits.drop n := by
      intro n
      rw [← List.drop_drop, List.take_append_drop]
    rw [List.append_assoc, hstep 16, List.append_assoc, hstep 12, List.append_assoc, hstep 8,
      List.take_append_drop]
  rw [hjoin, ofDigits?_digits]

theorem toNat_lt_of_mem_chars {u : Uuid} {c : Char} (h : c ∈ u.chars) : c.toNat < 0x80 := by
  have hdigit : ∀ {d}, d ∈ u.digits → d.toNat < 0x80 := Hex.toNat_lt_of_mem_fixed
  have hhyphen : '-'.toNat < 0x80 := by decide
  simp only [chars, List.mem_append, List.mem_cons] at h
  rcases h with h | rfl | h | rfl | h | rfl | h | rfl | h
  · exact hdigit (List.mem_of_mem_take h)
  · exact hhyphen
  · exact hdigit (List.mem_of_mem_drop (List.mem_of_mem_take h))
  · exact hhyphen
  · exact hdigit (List.mem_of_mem_drop (List.mem_of_mem_take h))
  · exact hhyphen
  · exact hdigit (List.mem_of_mem_drop (List.mem_of_mem_take h))
  · exact hhyphen
  · exact hdigit (List.mem_of_mem_drop h)

/-- The text of an identifier reads back as it. -/
theorem parse?_text (u : Uuid) : parse? u.text = some u := by
  have hlen : (Utf8.encode u.chars).length = 36 := by
    rw [Utf8.length_encode_of_ascii fun c => toNat_lt_of_mem_chars]
    simp [chars, length_digits]
  rw [parse?, text, String.toList_ofList, read?, hlen]
  exact u.ofGroups?_chars

theorem text_inj {u v : Uuid} : u.text = v.text ↔ u = v := by
  constructor
  · intro h
    have hread : parse? u.text = parse? v.text := congrArg parse? h
    rw [parse?_text, parse?_text] at hread
    exact Option.some.inj hread
  · exact congrArg text

end Uuid

end Gatehouse
