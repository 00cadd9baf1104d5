/-
  Gatehouse/Proofs/Password/Letters.lean --- bytes are read from the letters they make.

  Every letter is one byte of ASCII, none of which is a dollar sign, so letters can stand
  in the text of a hash behind a mark.  How many there are depends on the number of bytes
  alone, and they are read as the bytes they were written for.

  Main definition: `Radix64.sextets`.
  Main statements: `Radix64.length_encode`, `Radix64.decode_encode`.
-/
import Gatehouse.Password.Radix64
import Gatehouse.Proofs.Text.Coding
import Gatehouse.Proofs.Text.Identifiers
import Mathlib.Data.List.Basic

set_option autoImplicit false

namespace Gatehouse.Radix64

/-! ## Writing -/

/-- The numbers of the letters that bytes are written with. -/
def sextets : List UInt8 → List Nat
  | [] => []
  | [a] => [a.toNat / 4, a.toNat % 4 * 16]
  | [a, b] => [a.toNat / 4, a.toNat % 4 * 16 + b.toNat / 16, b.toNat % 16 * 4]
  | a :: b :: c :: rest =>
      a.toNat / 4 :: (a.toNat % 4 * 16 + b.toNat / 16) :: (b.toNat % 16 * 4 + c.toNat / 64)
        :: c.toNat % 64 :: sextets rest

theorem encode_eq_map (bs : List UInt8) : encode bs = (sextets bs).map letter := by
  fun_induction encode bs with
  | case1 | case2 | case3 => rfl
  | case4 a b c rest ih => rw [ih, sextets]; rfl

/-- Eight bits of a byte fill letters of six, the last one in part. -/
theorem length_encode (bs : List UInt8) : (encode bs).length = (8 * bs.length + 5) / 6 := by
  fun_induction encode bs with
  | case1 => rfl
  | case2 | case3 => simp
  | case4 a b c rest ih =>
    simp only [List.length_cons, ih]
    omega

theorem lt_of_mem_sextets {bs : List UInt8} {n : Nat} (h : n ∈ sextets bs) : n < 64 := by
  fun_induction sextets bs with
  | case1 => cases h
  | case2 a =>
    have ha := a.toNat_lt
    simp only [List.mem_cons, List.not_mem_nil, or_false] at h
    omega
  | case3 a b =>
    have ha := a.toNat_lt
    have hb := b.toNat_lt
    simp only [List.mem_cons, List.not_mem_nil, or_false] at h
    omega
  | case4 a b c rest ih =>
    have ha := a.toNat_lt
    have hb := b.toNat_lt
    have hc := c.toNat_lt
    simp only [List.mem_cons] at h
    rcases h with rfl | rfl | rfl | rfl | h
    · omega
    · omega
    · omega
    · omega
    · exact ih h

theorem letter_ascii : ∀ n < 64, (letter n).toNat < 0x80 := by decide

theorem letter_ne_dollar : ∀ n < 64, letter n ≠ '$' := by decide

theorem ascii_of_mem_encode {bs : List UInt8} {c : Char} (h : c ∈ encode bs) :
    c.toNat < 0x80 := by
  rw [encode_eq_map] at h
  obtain ⟨n, hn, rfl⟩ := List.mem_map.1 h
  exact letter_ascii n (lt_of_mem_sextets hn)

theorem dollar_notMem_encode (bs : List UInt8) : '$' ∉ encode bs := by
  intro h
  rw [encode_eq_map] at h
  obtain ⟨n, hn, hdollar⟩ := List.mem_map.1 h
  exact letter_ne_dollar n (lt_of_mem_sextets hn) hdollar

/-! ## Reading -/

theorem number_letter (position : Nat) {n : Nat} (h : n < 64) :
    number position (letter n).toNat.toUInt8 = pure n := by
  rw [number, value?_letter n h]
  rfl

theorem letter_ne_pad : ∀ n < 64, (letter n).toNat.toUInt8 ≠ 61 := by decide

/-- Letters are read as the bytes they were written for, wherever they begin. -/
theorem decodeFrom_sextets (position : Nat) (bs : List UInt8) :
    decodeFrom position ((sextets bs).map fun n => (letter n).toNat.toUInt8) = pure bs := by
  fun_induction sextets bs generalizing position with
  | case1 => rfl
  | case2 a =>
    have ha := a.toNat_lt
    simp only [List.map_cons, List.map_nil, decodeFrom]
    rw [number_letter _ (by omega), pure_bind, number_letter _ (by omega), pure_bind,
      if_pos (by omega), toUInt8_eq (a := a) (by omega)]
  | case3 a b =>
    have ha := a.toNat_lt
    have hb := b.toNat_lt
    simp only [List.map_cons, List.map_nil, decodeFrom]
    rw [number_letter _ (by omega), pure_bind, number_letter _ (by omega), pure_bind,
      if_neg (letter_ne_pad _ (by omega)), number_letter _ (by omega), pure_bind,
      if_pos (by omega), toUInt8_eq (a := a) (by omega), toUInt8_eq (a := b) (by omega)]
  | case4 a b c rest ih =>
    have ha := a.toNat_lt
    have hb := b.toNat_lt
    have hc := c.toNat_lt
    simp only [List.map_cons, decodeFrom]
    rw [number_letter _ (by omega), pure_bind, number_letter _ (by omega), pure_bind,
      number_letter _ (by omega), pure_bind, number_letter _ (by omega), pure_bind, ih,
      pure_bind, toUInt8_eq (a := a) (by omega), toUInt8_eq (a := b) (by omega),
      toUInt8_eq (a := c) (by omega)]

theorem bytes_encode (bs : List UInt8) :
    Utf8.encode (encode bs) = (sextets bs).map fun n => (letter n).toNat.toUInt8 := by
  have hone : ∀ n ∈ sextets bs, Utf8.encodeChar (letter n) = [(letter n).toNat.toUInt8] :=
    fun n hn => Utf8.encodeChar_of_lt (letter_ascii n (lt_of_mem_sextets hn))
  rw [encode_eq_map, Utf8.encode, List.flatMap_map, List.flatMap_congr hone, List.map_eq_flatMap]

theorem length_bytes_encode (bs : List UInt8) :
    (Utf8.encode (encode bs)).length = (8 * bs.length + 5) / 6 := by
  rw [Utf8.length_encode_of_ascii fun _ => ascii_of_mem_encode, length_encode]

theorem not_continues_letter : ∀ n < 64, Utf8.continues (letter n).toNat.toUInt8 = false := by
  decide

theorem not_continues_of_mem {bs : List UInt8} {b : UInt8} (h : b ∈ Utf8.encode (encode bs)) :
    Utf8.continues b = false := by
  rw [bytes_encode] at h
  obtain ⟨n, hn, rfl⟩ := List.mem_map.1 h
  exact not_continues_letter n (lt_of_mem_sextets hn)

theorem decode_encode (bs : List UInt8) : decode (Utf8.encode (encode bs)) = .ok bs := by
  rw [bytes_encode]
  exact decodeFrom_sextets 0 bs

end Gatehouse.Radix64
