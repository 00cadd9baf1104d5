/-
  Gatehouse/Proofs/Json/Words.lean --- the words of a written value.

  The text of a value is read into words byte by byte.  A run of bytes leaves the
  automaton between two words, having completed some, whatever comes after it; only a
  number needs a mark behind it to end.  From the runs of single characters follow
  those of numerals and string literals, and from these by recursion on the value the
  run of a whole text.

  Main definitions: `Json.words`, `Json.Fits`, `Json.Spells`.
  Main statement: `Json.spells_render`.
-/
import Gatehouse.Json.Token
import Gatehouse.Proofs.Text.Coding

set_option autoImplicit false

namespace Gatehouse.Json

/-! ## Single bytes -/

section

variable {mode next : Mode} {b : UInt8} {t : Token} (rest : List UInt8)

theorem tokensFrom?_cons :
    tokensFrom? mode (b :: rest) = match mode.step? b with
      | none => none
      | some (words, next) => (tokensFrom? next rest).map (words ++ ·) := by
  cases mode <;> rfl

/-- A byte that completes no word. -/
theorem tokensFrom?_silent (h : mode.step? b = some ([], next)) :
    tokensFrom? mode (b :: rest) = tokensFrom? next rest := by
  rw [tokensFrom?_cons, h]
  exact Option.map_id_apply ..

/-- A byte that completes a word. -/
theorem tokensFrom?_word (h : mode.step? b = some ([t], next)) :
    tokensFrom? mode (b :: rest) = (tokensFrom? next rest).map (t :: ·) := by
  rw [tokensFrom?_cons, h]
  rfl

end

/-- The bytes that are missing from a word complete it. -/
theorem tokensFrom?_missing (t : Token) {missing : List UInt8} (some_missing : missing ≠ [])
    (rest : List UInt8) :
    tokensFrom? (.word missing t) (missing ++ rest) = (tokensFrom? .between rest).map (t :: ·) := by
  induction missing with
  | nil => exact absurd rfl some_missing
  | cons b bs ih =>
    cases bs with
    | nil => exact tokensFrom?_word rest (if_pos rfl)
    | cons b₁ bs =>
      have hstep : Mode.step? (.word (b :: b₁ :: bs) t) b = some ([], .word (b₁ :: bs) t) :=
        if_pos rfl
      rw [List.cons_append, tokensFrom?_silent _ hstep]
      exact ih (List.cons_ne_nil b₁ bs)

/-! ## Numerals -/

/-- Whether a byte is a comma, a colon or a closing bracket. -/
def IsMark (b : UInt8) : Prop := b = 0x2C ∨ b = 0x3A ∨ b = 0x5D ∨ b = 0x7D

/-- Whether a mark stands in front, if anything does. -/
def Delimited (rest : List UInt8) : Prop := ∀ b ∈ rest.head?, IsMark b

/-- The digits of a number end before a mark. -/
theorem tokensFrom?_number_end {negative : Bool} {value : Nat} {part : NumberPart} {t : Token}
    {rest : List UInt8} (ends : numberToken? negative value part = some t)
    (digits : part = .zero ∨ part = .whole) (delimited : Delimited rest) :
    tokensFrom? (.number negative value part) rest
      = (tokensFrom? .between rest).map (t :: ·) := by
  cases rest with
  | nil =>
    simp only [tokensFrom?, ends]
    rfl
  | cons b rest =>
    have hnext : part.next? b = none := by
      rcases digits with rfl | rfl <;> rcases delimited b rfl with rfl | rfl | rfl | rfl <;> rfl
    rw [tokensFrom?_cons, tokensFrom?_cons]
    simp only [Mode.step?, hnext, ends, Option.bind_eq_bind, Option.bind_some]
    cases begin? b with
    | none => rfl
    | some p =>
      simp only [Option.bind_some, Option.map_map]
      rfl

theorem isDigit_digit : ∀ d < 10, isDigit (48 + d).toUInt8 = true := by decide

theorem toNat_digit : ∀ d < 10, (48 + d).toUInt8.toNat - 48 = d := by decide

theorem encodeChar_digit : ∀ d < 10, Utf8.encodeChar (Numeral.digit d) = [(48 + d).toUInt8] := by
  decide

theorem between_digit : ∀ d < 10, 0 < d →
    Mode.step? .between (48 + d).toUInt8 = some ([], .number false d .whole) := by
  decide

theorem sign_digit : ∀ d < 10, 0 < d →
    Mode.step? (.number true 0 .sign) (48 + d).toUInt8 = some ([], .number true d .whole) := by
  decide

/-- The digits of a number make its value, wherever the first of them may stand. -/
theorem tokensFrom?_digits {mode : Mode} {negative : Bool}
    (first : ∀ d < 10, 0 < d →
      mode.step? (48 + d).toUInt8 = some ([], .number negative d .whole))
    (n : Nat) (pos : 0 < n) (rest : List UInt8) :
    tokensFrom? mode (Utf8.encode (Numeral.ofNat n) ++ rest)
      = tokensFrom? (.number negative n .whole) rest := by
  fun_induction Numeral.ofNat n generalizing rest with
  | case1 n hn =>
    rw [Utf8.encode_cons, Utf8.encode_nil, encodeChar_digit n hn]
    exact tokensFrom?_silent rest (first n hn pos)
  | case2 n hn ih =>
    have hd : n % 10 < 10 := Nat.mod_lt n (by decide)
    have hstep : Mode.step? (.number negative (n / 10) .whole) (48 + n % 10).toUInt8
        = some ([], .number negative n .whole) := by
      simp only [Mode.step?, NumberPart.next?, isDigit_digit _ hd, toNat_digit _ hd, if_true]
      rw [Nat.div_add_mod' n 10]
    rw [Utf8.encode_append, Utf8.encode_cons, Utf8.encode_nil, encodeChar_digit _ hd,
      List.append_assoc, ih (by omega)]
    exact tokensFrom?_silent rest hstep

/-- Whether an integer is one of 64 bits, with a sign or without. -/
def FitsWord (i : Int) : Prop := -0x8000000000000000 ≤ i ∧ i ≤ 0xFFFFFFFFFFFFFFFF

theorem integerToken_nonneg {n : Nat} (h : FitsWord n) : integerToken false n = .int n := by
  have hn : ¬ n > Numeral.max64 := by
    simp only [FitsWord, Numeral.max64] at h ⊢
    omega
  simp only [integerToken, Bool.false_eq_true, if_false, if_neg hn, Int.ofNat_eq_natCast]

theorem integerToken_neg {n : Nat} (h : FitsWord (-n)) (pos : 0 < n) :
    integerToken true n = .int (-n) := by
  have hn : ¬ (n = 0 ∨ n > 0x8000000000000000) := by
    simp only [FitsWord] at h
    omega
  simp only [integerToken, if_true, if_neg hn, Int.ofNat_eq_natCast]

theorem tokensFrom?_numeral {i : Int} (fits : FitsWord i) {rest : List UInt8}
    (delimited : Delimited rest) :
    tokensFrom? .between (Utf8.encode (Numeral.ofInt i) ++ rest)
      = (tokensFrom? .between rest).map (.int i :: ·) := by
  cases i with
  | ofNat n =>
    have hword : integerToken false n = .int (Int.ofNat n) := integerToken_nonneg fits
    rw [Numeral.ofInt]
    rcases Nat.eq_zero_or_pos n with rfl | pos
    · have hzero : Utf8.encode (Numeral.ofNat 0) = [0x30] := by
        rw [Numeral.ofNat]
        decide
      have hstep : Mode.step? .between 0x30 = some ([], .number false 0 .zero) := rfl
      rw [hzero, List.singleton_append, tokensFrom?_silent rest hstep]
      exact tokensFrom?_number_end (congrArg some hword) (Or.inl rfl) delimited
    · rw [tokensFrom?_digits between_digit n pos]
      exact tokensFrom?_number_end (congrArg some hword) (Or.inr rfl) delimited
  | negSucc n =>
    have hword : integerToken true (n + 1) = .int (Int.negSucc n) :=
      integerToken_neg (n := n + 1) fits (Nat.succ_pos n)
    have hminus : Utf8.encodeChar '-' = [0x2D] := rfl
    have hsign : Mode.step? .between 0x2D = some ([], .number true 0 .sign) := rfl
    rw [Numeral.ofInt, Utf8.encode_cons, hminus, List.append_assoc, List.singleton_append,
      tokensFrom?_silent _ hsign, tokensFrom?_digits sign_digit (n + 1) (Nat.succ_pos n)]
    exact tokensFrom?_number_end (congrArg some hword) (Or.inr rfl) delimited

/-! ## String literals -/

/-- A literal that has been sound so far, with the given bytes. -/
def Literal.sofar (bytes : List UInt8) : Literal :=
  { bytes := bytes.reverse, sound := true, high := none }

theorem Literal.push_sofar (bytes : List UInt8) (b : UInt8) :
    (Literal.sofar bytes).push b = .sofar (bytes ++ [b]) := by
  simp only [Literal.push, Literal.sofar, List.reverse_append, List.reverse_singleton,
    List.singleton_append, Option.isNone_none, Bool.and_self]

theorem Literal.pushCode_sofar (bytes : List UInt8) {n : Nat} (h : n < 0xD800) :
    (Literal.sofar bytes).pushCode n = .sofar (bytes ++ Utf8.encodeChar (Char.ofNat n)) := by
  have hhigh : (0xD800 ≤ n && n ≤ 0xDBFF) = false := by
    rw [decide_eq_false (by omega), Bool.false_and]
  have hlow : (0xDC00 ≤ n && n ≤ 0xDFFF) = false := by
    rw [decide_eq_false (by omega), Bool.false_and]
  simp only [Literal.pushCode, Literal.sofar, hhigh, hlow, List.reverse_append]
  rfl

theorem Literal.token_sofar (s : String) : (Literal.sofar (Utf8.bytes s)).token = .str s := by
  simp only [Literal.token, Literal.sofar, List.reverse_reverse, Option.isNone_none,
    Bool.and_self, if_true, Utf8.string?_bytes]

/-- Whether a byte stands for itself inside a string literal. -/
def IsPlain (b : UInt8) : Prop := b ≠ 0x22 ∧ b ≠ 0x5C ∧ ¬ b < 0x20

theorem isPlain_of_le {b : UInt8} (h : 0x80 ≤ b.toNat) : IsPlain b := by
  refine ⟨?_, ?_, ?_⟩
  · rintro rfl
    exact absurd h (by decide)
  · rintro rfl
    exact absurd h (by decide)
  · rw [UInt8.lt_iff_toNat_lt]
    simp only [UInt8.reduceToNat]
    omega

/-- The bytes of a character that needs no escape stand for themselves. -/
theorem isPlain_of_mem_encodeChar {c : Char} (hquote : c ≠ '"') (hslash : c ≠ '\\')
    (hblank : ¬ c.toNat < 32) : ∀ b ∈ Utf8.encodeChar c, IsPlain b := by
  intro b hb
  by_cases hascii : c.toNat < 0x80
  · rw [Utf8.encodeChar_of_lt hascii, List.mem_singleton] at hb
    have hvalue : b.toNat = c.toNat := by rw [hb, toNat_toUInt8 (by omega)]
    refine ⟨?_, ?_, ?_⟩
    · rintro rfl
      exact hquote (Char.toNat_inj.1 hvalue.symm)
    · rintro rfl
      exact hslash (Char.toNat_inj.1 hvalue.symm)
    · rw [UInt8.lt_iff_toNat_lt, hvalue]
      exact hblank
  · exact isPlain_of_le (Utf8.le_of_mem_encodeChar (Nat.not_lt.1 hascii) hb)

section

variable (bytes rest : List UInt8)

theorem tokensFrom?_plain {bs : List UInt8} (h : ∀ b ∈ bs, IsPlain b) :
    tokensFrom? (.literal (.sofar bytes)) (bs ++ rest)
      = tokensFrom? (.literal (.sofar (bytes ++ bs))) rest := by
  induction bs generalizing bytes with
  | nil => rw [List.nil_append, List.append_nil]
  | cons b bs ih =>
    obtain ⟨hquote, hslash, hblank⟩ := h b List.mem_cons_self
    have hstep : Mode.step? (.literal (.sofar bytes)) b
        = some ([], .literal (.sofar (bytes ++ [b]))) := by
      rw [Mode.step?, if_neg hquote, if_neg hslash, if_neg hblank, Literal.push_sofar]
    rw [List.cons_append, tokensFrom?_silent _ hstep,
      ih _ (fun a ha => h a (List.mem_cons_of_mem b ha)), List.append_assoc]
    rfl

theorem step?_backslash :
    Mode.step? (.literal (.sofar bytes)) 0x5C = some ([], .escape (.sofar bytes)) := rfl

/-- An escape by a letter adds the byte that the letter stands for. -/
theorem tokensFrom?_escape {letter value : UInt8} (h : escaped? letter = some value)
    (hcode : letter ≠ 0x75) :
    tokensFrom? (.literal (.sofar bytes)) (0x5C :: letter :: rest)
      = tokensFrom? (.literal (.sofar (bytes ++ [value]))) rest := by
  have hletter : Mode.step? (.escape (.sofar bytes)) letter
      = some ([], .literal (.sofar (bytes ++ [value]))) := by
    rw [Mode.step?, if_neg hcode, h, Option.map_some, Literal.push_sofar]
  rw [tokensFrom?_silent _ (step?_backslash bytes), tokensFrom?_silent _ hletter]

/-- The byte of a hexadecimal digit. -/
def hexByte (d : Nat) : UInt8 := (Hex.digit d).toNat.toUInt8

theorem encodeChar_hexDigit : ∀ d < 16, Utf8.encodeChar (Hex.digit d) = [hexByte d] := by decide

theorem value?_hexByte : ∀ d < 16, Hex.value? (Char.ofNat (hexByte d).toNat) = some d := by
  decide

theorem tokensFrom?_hexByte {d : Nat} (hd : d < 16) (lit : Literal) (missing value : Nat) :
    tokensFrom? (.code lit (missing + 2) value) (hexByte d :: rest)
      = tokensFrom? (.code lit (missing + 1) (value * 16 + d)) rest := by
  have hstep : Mode.step? (.code lit (missing + 2) value) (hexByte d)
      = some ([], .code lit (missing + 1) (value * 16 + d)) := by
    rw [Mode.step?, value?_hexByte d hd]
    exact if_neg (by omega)
  exact tokensFrom?_silent rest hstep

/-- An escape by number adds the character with that number. -/
theorem tokensFrom?_code {n : Nat} (hn : n < 256) :
    tokensFrom? (.literal (.sofar bytes))
        (0x5C :: 0x75 :: 0x30 :: 0x30 :: hexByte (n / 16) :: hexByte (n % 16) :: rest)
      = tokensFrom? (.literal (.sofar (bytes ++ Utf8.encodeChar (Char.ofNat n)))) rest := by
  have hcode : Mode.step? (.escape (.sofar bytes)) 0x75 = some ([], .code (.sofar bytes) 4 0) :=
    rfl
  have hlast : Mode.step? (.code (.sofar bytes) 1 (n / 16)) (hexByte (n % 16))
      = some ([], .literal (.sofar (bytes ++ Utf8.encodeChar (Char.ofNat n)))) := by
    rw [Mode.step?, value?_hexByte _ (by omega)]
    simp only [Nat.le_refl, if_true, Nat.div_add_mod' n 16]
    rw [Literal.pushCode_sofar bytes (by omega)]
  have hzero : (0x30 : UInt8) = hexByte 0 := rfl
  rw [tokensFrom?_silent _ (step?_backslash bytes), tokensFrom?_silent _ hcode, hzero,
    tokensFrom?_hexByte _ (by decide), tokensFrom?_hexByte _ (by decide),
    tokensFrom?_hexByte _ (by omega)]
  simp only [Nat.zero_mul, Nat.zero_add]
  exact tokensFrom?_silent rest hlast

end

/-- How a character is written inside a string literal: by a letter, by its number, or as
itself. -/
theorem escapeChar_cases (c : Char) :
    (∃ letter value, Utf8.encode (escapeChar c) = [0x5C, letter] ∧ Utf8.encodeChar c = [value]
        ∧ escaped? letter = some value ∧ letter ≠ 0x75)
      ∨ (c.toNat < 256 ∧ Utf8.encode (escapeChar c)
          = [0x5C, 0x75, 0x30, 0x30, hexByte (c.toNat / 16), hexByte (c.toNat % 16)])
      ∨ (Utf8.encode (escapeChar c) = Utf8.encodeChar c
          ∧ ∀ b ∈ Utf8.encodeChar c, IsPlain b) := by
  have hofNat : ∀ {n : Nat}, c.toNat = n → c = Char.ofNat n := by
    rintro n rfl
    exact (Char.ofNat_toNat c).symm
  by_cases hquote : c = '"'
  · rw [hquote]
    exact Or.inl ⟨0x22, 0x22, rfl, rfl, rfl, by decide⟩
  by_cases hslash : c = '\\'
  · rw [hslash]
    exact Or.inl ⟨0x5C, 0x5C, rfl, rfl, rfl, by decide⟩
  by_cases hbackspace : c.toNat = 8
  · rw [hofNat hbackspace]
    exact Or.inl ⟨0x62, 8, rfl, rfl, rfl, by decide⟩
  by_cases htab : c.toNat = 9
  · rw [hofNat htab]
    exact Or.inl ⟨0x74, 9, rfl, rfl, rfl, by decide⟩
  by_cases hline : c.toNat = 10
  · rw [hofNat hline]
    exact Or.inl ⟨0x6E, 10, rfl, rfl, rfl, by decide⟩
  by_cases hfeed : c.toNat = 12
  · rw [hofNat hfeed]
    exact Or.inl ⟨0x66, 12, rfl, rfl, rfl, by decide⟩
  by_cases hreturn : c.toNat = 13
  · rw [hofNat hreturn]
    exact Or.inl ⟨0x72, 13, rfl, rfl, rfl, by decide⟩
  rw [escapeChar, if_neg hquote, if_neg hslash, if_neg hbackspace, if_neg htab, if_neg hline,
    if_neg hfeed, if_neg hreturn]
  by_cases hblank : c.toNat < 32
  · rw [if_pos hblank]
    refine Or.inr (Or.inl ⟨by omega, ?_⟩)
    have hhigh := encodeChar_hexDigit (c.toNat / 16) (by omega)
    have hlow := encodeChar_hexDigit (c.toNat % 16) (by omega)
    simp only [Utf8.encode_cons, Utf8.encode_nil, hhigh, hlow]
    rfl
  · rw [if_neg hblank, Utf8.encode_cons, Utf8.encode_nil, List.append_nil]
    exact Or.inr (Or.inr ⟨rfl, isPlain_of_mem_encodeChar hquote hslash hblank⟩)

/-- What stands for a character adds its bytes. -/
theorem tokensFrom?_escapeChar (c : Char) (bytes rest : List UInt8) :
    tokensFrom? (.literal (.sofar bytes)) (Utf8.encode (escapeChar c) ++ rest)
      = tokensFrom? (.literal (.sofar (bytes ++ Utf8.encodeChar c))) rest := by
  rcases escapeChar_cases c with ⟨letter, value, hbytes, hchar, hescaped, hcode⟩ | ⟨hn, hbytes⟩
    | ⟨hbytes, hplain⟩
  · rw [hbytes, hchar]
    exact tokensFrom?_escape bytes rest hescaped hcode
  · rw [hbytes]
    have hcode := tokensFrom?_code bytes rest hn
    rw [Char.ofNat_toNat] at hcode
    exact hcode
  · rw [hbytes]
    exact tokensFrom?_plain bytes rest hplain

theorem tokensFrom?_escapeChars (cs : List Char) (bytes rest : List UInt8) :
    tokensFrom? (.literal (.sofar bytes)) (Utf8.encode (cs.flatMap escapeChar) ++ rest)
      = tokensFrom? (.literal (.sofar (bytes ++ Utf8.encode cs))) rest := by
  induction cs generalizing bytes with
  | nil => rw [List.flatMap_nil, Utf8.encode_nil, List.nil_append, List.append_nil]
  | cons c cs ih =>
    rw [List.flatMap_cons, Utf8.encode_append, List.append_assoc, tokensFrom?_escapeChar, ih,
      Utf8.encode_cons, List.append_assoc]

/-! ## Runs of characters -/

/-- Whether characters are read as the given words, with a mark or nothing behind them. -/
def Spells (cs : List Char) (ws : List Token) : Prop :=
  ∀ rest, Delimited rest → tokensFrom? .between (Utf8.encode cs ++ rest)
    = (tokensFrom? .between rest).map (ws ++ ·)

namespace Spells

variable {cs ds : List Char} {ws vs : List Token} {c : Char} {b : UInt8} {t : Token}

theorem nil : Spells [] [] := by
  intro rest _
  exact (Option.map_id_apply ..).symm

/-- A character that is a word of its own may stand before any others. -/
theorem cons (hbyte : Utf8.encodeChar c = [b])
    (hword : Mode.step? .between b = some ([t], .between)) (h : Spells cs ws) :
    Spells (c :: cs) (t :: ws) := by
  intro rest delimited
  rw [Utf8.encode_cons, hbyte, List.append_assoc, List.singleton_append,
    tokensFrom?_word _ hword, h rest delimited, Option.map_map]
  rfl

/-- What begins with a mark may stand behind any characters. -/
theorem append (h : Spells cs ws) (h₁ : Spells (c :: ds) vs) (hbyte : Utf8.encodeChar c = [b])
    (hmark : IsMark b) : Spells (cs ++ c :: ds) (ws ++ vs) := by
  intro rest delimited
  have hfront : Delimited (Utf8.encode (c :: ds) ++ rest) := by
    rw [Utf8.encode_cons, hbyte]
    rintro a ⟨⟩
    exact hmark
  rw [Utf8.encode_append, List.append_assoc, h _ hfront, h₁ rest delimited, Option.map_map]
  congr 1
  funext ts
  exact (List.append_assoc ws vs ts).symm

/-- A word that is spelled out. -/
theorem spelledOut (hbyte : Utf8.encodeChar c = [b])
    (hbegin : Mode.step? .between b = some ([], .word (Utf8.encode cs) t))
    (some_missing : Utf8.encode cs ≠ []) : Spells (c :: cs) [t] := by
  intro rest _
  rw [Utf8.encode_cons, hbyte, List.append_assoc, List.singleton_append,
    tokensFrom?_silent _ hbegin, tokensFrom?_missing t some_missing]
  rfl

theorem null : Spells (render .null) [.null] := spelledOut rfl rfl (by decide)

theorem bool (value : Bool) : Spells (render (.bool value)) [.bool value] := by
  cases value with
  | true => exact spelledOut rfl rfl (by decide)
  | false => exact spelledOut rfl rfl (by decide)

theorem numeral {i : Int} (fits : FitsWord i) : Spells (Numeral.ofInt i) [.int i] :=
  fun _ delimited => tokensFrom?_numeral fits delimited

theorem quote (s : String) : Spells (Json.quote s) [.str s] := by
  intro rest _
  have hmark : Utf8.encodeChar '"' = [0x22] := rfl
  have hopen : Mode.step? .between 0x22 = some ([], .literal (.sofar [])) := rfl
  have hclose : Mode.step? (.literal (.sofar (Utf8.bytes s))) 0x22
      = some ([.str s], .between) := by
    rw [Mode.step?, if_pos rfl, Literal.token_sofar]
  rw [Json.quote, Utf8.encode_cons, Utf8.encode_append, Utf8.encode_cons, Utf8.encode_nil, hmark,
    List.append_assoc, List.append_assoc, List.singleton_append, tokensFrom?_silent _ hopen,
    tokensFrom?_escapeChars]
  exact tokensFrom?_word rest hclose

end Spells

/-! ## Values -/

mutual

/-- The words of a value. -/
def words : Json → List Token
  | .null | .real | .garbled => [.null]
  | .bool b => [.bool b]
  | .int i => [.int i]
  | .str s => [.str s]
  | .arr items => .openList :: (wordsOfItems items ++ [.closeList])
  | .obj members => .openObject :: (wordsOfMembers members ++ [.closeObject])

/-- The words of the items of a list. -/
def wordsOfItems : List Json → List Token
  | [] => []
  | [v] => words v
  | v :: rest => words v ++ .comma :: wordsOfItems rest

/-- The words of the members of an object. -/
def wordsOfMembers : List (String × Json) → List Token
  | [] => []
  | [(k, v)] => .str k :: .colon :: words v
  | (k, v) :: rest => .str k :: .colon :: words v ++ .comma :: wordsOfMembers rest

end

mutual

/-- Whether each number in a value is an integer of 64 bits, and each literal in it spells
a text: such a value can be told from its text. -/
def Fits : Json → Prop
  | .int i => FitsWord i
  | .real | .garbled => False
  | .arr items => ItemsFit items
  | .obj members => MembersFit members
  | .null | .bool _ | .str _ => True

/-- Whether every item of a list fits. -/
def ItemsFit : List Json → Prop
  | [] => True
  | v :: rest => Fits v ∧ ItemsFit rest

/-- Whether every member of an object fits. -/
def MembersFit : List (String × Json) → Prop
  | [] => True
  | (_, v) :: rest => Fits v ∧ MembersFit rest

end

mutual

/-- The text of a value is read as its words. -/
theorem spells_render : ∀ v : Json, Fits v → Spells (render v) (words v)
  | .null, _ => .null
  | .bool b, _ => .bool b
  | .int _, fits => .numeral fits
  | .str s, _ => .quote s
  | .arr items, fits =>
      .cons rfl rfl (.append (spells_renderItems items fits) (.cons rfl rfl .nil) rfl
        (by simp [IsMark]))
  | .obj members, fits =>
      .cons rfl rfl (.append (spells_renderMembers members fits) (.cons rfl rfl .nil) rfl
        (by simp [IsMark]))

theorem spells_renderItems : ∀ items : List Json, ItemsFit items →
    Spells (renderItems items) (wordsOfItems items)
  | [], _ => .nil
  | [v], fits => spells_render v fits.1
  | v :: w :: rest, fits =>
      .append (spells_render v fits.1) (.cons rfl rfl (spells_renderItems (w :: rest) fits.2)) rfl
        (by simp [IsMark])

theorem spells_renderMembers : ∀ members : List (String × Json), MembersFit members →
    Spells (renderMembers members) (wordsOfMembers members)
  | [], _ => .nil
  | [(k, v)], fits =>
      .append (.quote k) (.cons rfl rfl (spells_render v fits.1)) rfl (by simp [IsMark])
  | (k, v) :: m :: rest, fits =>
      .append (.append (.quote k) (.cons rfl rfl (spells_render v fits.1)) rfl (by simp [IsMark]))
        (.cons rfl rfl (spells_renderMembers (m :: rest) fits.2)) rfl (by simp [IsMark])

end

end Gatehouse.Json
