/-
  Gatehouse/Proofs/Password/Hashing.lean --- which passwords pass for which.

  The text of a hash is read as the very parts that it was made of, so checking a
  password against a fresh hash never fails: the answer is whether both passwords have one
  digest under the salt that was drawn.  A digest is made from 72 bytes, the password
  with a zero byte behind it, over and over.  Passwords that agree on them pass for each
  other at every cost and under every salt.

  Among passwords without zero bytes those are the ones that agree on their first 72 bytes.
  That passwords with different bytes have different digests is not claimed: there are
  fewer digests than passwords.

  Main definitions: `Bcrypt.spread`, `Bcrypt.PassesFor`.
  Main statements: `Bcrypt.verify_text`, `BcryptHasher.verify_hash`,
  `Bcrypt.exists_passesFor_short`.
-/
import Gatehouse.Password.Bcrypt
import Gatehouse.Proofs.Password.Letters
import Gatehouse.Proofs.Running
import Gatehouse.Proofs.Text.Numerals
import Mathlib.Data.Fintype.BigOperators
import Mathlib.Data.Fintype.Pigeonhole
import Mathlib.Data.List.TakeWhile
import Mathlib.Tactic.NormNum

set_option autoImplicit false

namespace Gatehouse

namespace Bcrypt

variable {cost : Nat} {salt : List UInt8} {p q : String}

/-! ## Costs -/

theorem digit?_of_mem_twoDigits {n : Nat} {c : Char} (h : c ∈ twoDigits n) :
    (Numeral.digit? c).isSome := by
  unfold twoDigits at h
  split at h
  · rcases List.mem_cons.1 h with rfl | h
    · rfl
    · exact Numeral.digit?_of_mem_ofNat h
  · exact Numeral.digit?_of_mem_ofNat h

theorem valueFrom_twoDigits (n : Nat) : Numeral.valueFrom 0 (twoDigits n) = n := by
  unfold twoDigits
  split
  · exact Numeral.valueFrom_ofNat n
  · exact Numeral.valueFrom_ofNat n

theorem twoDigits_ne_nil (n : Nat) : twoDigits n ≠ [] := by
  unfold twoDigits
  split
  · exact List.cons_ne_nil _ _
  · rw [Numeral.ofNat]
    split <;> simp

/-- A cost is read as it was written. -/
theorem readUnsigned_twoDigits {n : Nat} (h : n ≤ Numeral.max32) :
    Numeral.readUnsigned Numeral.max32 (twoDigits n) = .ok n := by
  refine Numeral.readUnsigned_eq_ok_iff.2 ⟨twoDigits n, .inl rfl, twoDigits_ne_nil n, ?_⟩
  exact (Numeral.readDigits_eq_ok_iff _ (Nat.zero_le _)).2
    ⟨fun _ => digit?_of_mem_twoDigits, valueFrom_twoDigits n, h⟩

theorem dollar_notMem_twoDigits (n : Nat) : '$' ∉ twoDigits n :=
  fun h => absurd (digit?_of_mem_twoDigits h) (by decide)

/-! ## Hashes as text -/

theorem length_digest (cost : Nat) (salt key : List UInt8) :
    (digest cost salt key).length = 23 := by
  simp [digest, plainBlocks, Sha256.wordBytes]

/-- The text of a hash has three dollar signs, the first of them in front. -/
theorem splitOn_text (cost : Nat) (salt d : List UInt8) :
    (text cost salt d).toList.splitOn '$'
      = [[], ['2', 'b'], twoDigits cost, Radix64.encode salt ++ Radix64.encode d] := by
  have hbody : '$' ∉ Radix64.encode salt ++ Radix64.encode d := by
    simp only [List.mem_append, Radix64.dollar_notMem_encode, or_self, not_false_eq_true]
  have hparts : (text cost salt d).toList = [] ++ '$' :: (['2', 'b'] ++ '$' :: (twoDigits cost
      ++ '$' :: (Radix64.encode salt ++ Radix64.encode d))) := by
    have htext : (text cost salt d).toList = "$2b$".toList ++ twoDigits cost
        ++ '$' :: Radix64.encode salt ++ Radix64.encode d := String.toList_ofList
    have hlead : "$2b$".toList = ['$', '2', 'b', '$'] := by decide
    rw [htext, hlead]
    simp only [List.cons_append, List.nil_append, List.append_assoc]
  have hversion : '$' ∉ ['2', 'b'] := by decide
  rw [hparts, List.splitOn_append_cons_self_of_not_mem List.not_mem_nil,
    List.splitOn_append_cons_self_of_not_mem hversion,
    List.splitOn_append_cons_self_of_not_mem (dollar_notMem_twoDigits cost),
    List.splitOn_eq_singleton hbody]

/-- Between the letters of salt and digest a character begins, as everywhere in them. -/
theorem isBoundary_body (salt d : List UInt8) (position : Nat) :
    isBoundary (Utf8.encode (Radix64.encode salt ++ Radix64.encode d)) position = true := by
  unfold isBoundary
  split
  · rename_i b hb
    have hmem := List.mem_of_getElem? hb
    rw [Utf8.encode_append] at hmem
    rcases List.mem_append.1 hmem with h | h
    · rw [Radix64.not_continues_of_mem h]
      rfl
    · rw [Radix64.not_continues_of_mem h]
      rfl
  · rfl

/-- The parts of a hash: salt and digest as the bytes of their letters. -/
theorem ofText_text {d : List UInt8} (hcost : cost ≤ Numeral.max32) (hsalt : salt.length = 16)
    (hd : d.length = 23) :
    Parts.ofText (text cost salt d) = pure ⟨cost, Utf8.encode (Radix64.encode salt),
      Utf8.encode (Radix64.encode d)⟩ := by
  have hfilter : ((text cost salt d).toList.splitOn '$').filter (fun part => !part.isEmpty)
      = [['2', 'b'], twoDigits cost, Radix64.encode salt ++ Radix64.encode d] := by
    have hletters : Radix64.encode salt ≠ [] := by
      rw [← List.length_pos_iff, Radix64.length_encode]
      omega
    simp [splitOn_text, twoDigits_ne_nil, hletters]
  have hfront : (Utf8.encode (Radix64.encode salt)).length = saltLetters := by
    rw [Radix64.length_bytes_encode, hsalt]
    rfl
  have hbody : (Utf8.encode (Radix64.encode salt ++ Radix64.encode d)).length = bodyLetters := by
    rw [Utf8.encode_append, List.length_append, hfront, Radix64.length_bytes_encode, hd]
    rfl
  rw [Parts.ofText, hfilter]
  simp only [readUnsigned_twoDigits hcost, hbody, isBoundary_body, and_self, if_true]
  rw [if_neg (by decide), Utf8.encode_append, List.take_left' hfront, List.drop_left' hfront]
  rfl

theorem decode_letters (bs : List UInt8) :
    (Radix64.decode (Utf8.encode (Radix64.encode bs))).mapError Fault.letters = pure bs := by
  rw [Radix64.decode_encode]
  rfl

/-- A password passes for another one if both have one digest. -/
def PassesFor (cost : Nat) (salt : List UInt8) (p q : String) : Prop :=
  digest cost salt (key p) = digest cost salt (key q)

instance (cost : Nat) (salt : List UInt8) (p q : String) : Decidable (PassesFor cost salt p q) :=
  inferInstanceAs (Decidable (_ = _))

theorem digestOf_allowed (allowed : minCost ≤ cost ∧ cost ≤ maxCost) (salt : List UInt8)
    (p : String) : digestOf cost salt p = pure (digest cost salt (key p)) :=
  if_pos allowed

/-- Checking a password against the hash of another one never fails. -/
theorem verify_text (allowed : minCost ≤ cost ∧ cost ≤ maxCost) (hsalt : salt.length = 16)
    (p q : String) :
    verify q (text cost salt (digest cost salt (key p)))
      = .ok (decide (PassesFor cost salt p q)) := by
  have hcost : cost ≤ Numeral.max32 := Nat.le_trans allowed.2 (by decide)
  have hparts := ofText_text hcost hsalt (length_digest cost salt (key p))
  have hanswer : (digest cost salt (key p) == digest cost salt (key q))
      = decide (PassesFor cost salt p q) := beq_eq_decide _ _
  rw [verify, hparts, pure_bind, decode_letters, pure_bind, digestOf_allowed allowed, pure_bind,
    decode_letters, pure_bind, hanswer]
  rfl

end Bcrypt

/-! ## Keys -/

namespace Blowfish

/-- The first `n` bytes of a cycle of bytes. -/
def cycle (bytes : List UInt8) (n : Nat) : List UInt8 :=
  (List.range n).map fun i => bytes.getD (i % bytes.length) 0

theorem length_cycle (bytes : List UInt8) (n : Nat) : (cycle bytes n).length = n := by
  rw [cycle, List.length_map, List.length_range]

/-- A cycle goes once through its bytes before it comes back to the first. -/
theorem cycle_of_le {bytes : List UInt8} {n : Nat} (h : bytes.length ≤ n) :
    ∃ again, cycle bytes n = bytes ++ again := by
  refine ⟨(cycle bytes n).drop bytes.length, ?_⟩
  have hfirst : (cycle bytes n).take bytes.length = bytes := by
    refine List.ext_getElem ?_ fun i hi hi' => ?_
    · rw [List.length_take, length_cycle, Nat.min_eq_left h]
    · simp [cycle, Nat.mod_eq_of_lt hi', List.getElem?_eq_getElem hi']
  have hboth := List.take_append_drop bytes.length (cycle bytes n)
  rw [hfirst] at hboth
  exact hboth.symm

/-- Each word is made of four bytes of the cycle. -/
theorem cyclicWords_congr {a b : List UInt8} {n : Nat} (h : cycle a (4 * n) = cycle b (4 * n)) :
    cyclicWords a n = cyclicWords b n := by
  have hbyte : ∀ i < 4 * n, a.getD (i % a.length) 0 = b.getD (i % b.length) 0 :=
    fun i hi => List.map_inj_left.1 h i (List.mem_range.2 hi)
  unfold cyclicWords
  refine Array.ext (by simp) fun i hi _ => ?_
  have hi : i < n := by simpa using hi
  simp only [Array.getElem_map, Array.getElem_range, cyclicWord]
  refine List.foldl_ext _ _ _ fun w j hj => ?_
  have hj : j < 4 := List.mem_range.1 hj
  have hij := hbyte (4 * i + j) (by omega)
  rw [List.getD_eq_getElem?_getD, List.getD_eq_getElem?_getD] at hij
  simp only [List.size_toArray, Array.getD_eq_getD_getElem?, List.getElem?_toArray, hij]

end Blowfish

namespace Bcrypt

variable {p q : String}

/-- The bytes that the cipher is given of a password. -/
def spread (password : String) : List UInt8 := Blowfish.cycle (key password) keyLimit

theorem length_key_le (p : String) : (key p).length ≤ keyLimit := by
  rw [key, List.length_take]
  exact Nat.min_le_left ..

/-- Nothing but the bytes that the cipher is given matters to a digest. -/
theorem digest_congr (cost : Nat) (salt : List UInt8) (h : spread p = spread q) :
    digest cost salt (key p) = digest cost salt (key q) := by
  have hwords : Blowfish.cyclicWords (key p) 18 = Blowfish.cyclicWords (key q) 18 :=
    Blowfish.cyclicWords_congr h
  simp only [digest, Blowfish.schedule, hwords]

theorem zero_notMem_bytes (h : '\x00' ∉ p.toList) : 0 ∉ Utf8.bytes p := by
  intro hzero
  obtain ⟨c, hc, hbyte⟩ := List.mem_flatMap.1 hzero
  by_cases hascii : c.toNat < 0x80
  · rw [Utf8.encodeChar_of_lt hascii, List.mem_singleton] at hbyte
    have hnat : c.toNat = 0 := by
      rw [← toNat_toUInt8 (by omega : c.toNat < 256), ← hbyte]
      rfl
    have hchar : c = '\x00' := by
      rw [← Char.ofNat_toNat c, hnat]
    exact h (hchar ▸ hc)
  · have hle := Utf8.le_of_mem_encodeChar (by omega) hbyte
    exact absurd hle (by decide)

/-- A password without zero bytes ends where the first zero byte stands. -/
theorem takeWhile_spread (h : '\x00' ∉ p.toList) :
    (spread p).takeWhile (· != 0) = (Utf8.bytes p).take keyLimit := by
  have hkept : ∀ b ∈ (Utf8.bytes p).take keyLimit, (b != 0) = true := by
    intro b hb
    have hne : b ≠ 0 := fun heq => zero_notMem_bytes h (heq ▸ List.mem_of_mem_take hb)
    simpa using hne
  obtain ⟨again, hagain⟩ := Blowfish.cycle_of_le (length_key_le p)
  rw [spread, hagain]
  by_cases hshort : (Utf8.bytes p).length < keyLimit
  -- The zero byte behind the password is part of the key.
  · have hwhole : (Utf8.bytes p).take keyLimit = Utf8.bytes p :=
      List.take_of_length_le (by omega)
    have hkey : key p = Utf8.bytes p ++ [0] := List.take_of_length_le (by simp; omega)
    rw [hwhole] at hkept ⊢
    rw [hkey, List.append_assoc, List.takeWhile_append_of_pos hkept]
    simp
  -- The password fills the key, which is gone through once.
  · have hkey : key p = (Utf8.bytes p).take keyLimit := List.take_append_of_le_length (by omega)
    have hlength : (key p).length = keyLimit := by
      rw [hkey, List.length_take]
      omega
    have hagain : again = [] := by
      have hboth := congrArg List.length hagain
      rw [Blowfish.length_cycle, List.length_append, hlength] at hboth
      exact List.length_eq_zero_iff.1 (by omega)
    rw [hagain, List.append_nil, hkey]
    exact List.takeWhile_eq_self_iff.2 hkept

theorem key_eq_of_take (h : (Utf8.bytes p).take keyLimit = (Utf8.bytes q).take keyLimit) :
    key p = key q := by
  have hkey : ∀ s, key s = ((Utf8.bytes s).take keyLimit ++ [0]).take keyLimit := by
    intro s
    by_cases hshort : (Utf8.bytes s).length ≤ keyLimit
    · rw [List.take_of_length_le hshort]
      rfl
    · rw [key, List.take_append_of_le_length (by omega),
        List.take_append_of_le_length (by rw [List.length_take]; omega), List.take_take,
        Nat.min_self]
  rw [hkey p, hkey q, h]

/-- Among passwords without zero bytes the first 72 bytes tell what the cipher is given. -/
theorem spread_eq_iff (hp : '\x00' ∉ p.toList) (hq : '\x00' ∉ q.toList) :
    spread p = spread q ↔ (Utf8.bytes p).take keyLimit = (Utf8.bytes q).take keyLimit := by
  constructor
  · intro h
    rw [← takeWhile_spread hp, ← takeWhile_spread hq, h]
  · intro h
    rw [spread, spread, key_eq_of_take h]

/-- A password that is one letter over and over. -/
def repeated (n : Nat) : String := String.ofList (List.replicate n 'a')

theorem bytes_repeated (n : Nat) : Utf8.bytes (repeated n) = List.replicate n 0x61 := by
  have hletter : Utf8.encodeChar 'a' = [0x61] := rfl
  rw [Utf8.bytes, repeated, String.toList_ofList, Utf8.encode, List.flatMap_replicate, hletter,
    List.flatten_replicate_singleton]

theorem repeated_inj {m n : Nat} (h : repeated m = repeated n) : m = n := by
  have hbytes := congrArg (fun p => (Utf8.bytes p).length) h
  simpa only [bytes_repeated, List.length_replicate] using hbytes

/-- Behind the first 72 letters no letter counts. -/
theorem take_bytes_repeated {n : Nat} (h : keyLimit ≤ n) :
    (Utf8.bytes (repeated n)).take keyLimit = List.replicate keyLimit 0x61 := by
  rw [bytes_repeated, List.take_replicate, Nat.min_eq_left h]

end Bcrypt

namespace BcryptHasher

variable {m : Type → Type} [Monad m] [LawfulMonad m] [MonadRandom m]

omit [MonadRandom m] in
/-- What comes after the salt was drawn. -/
theorem verify_of_salt {cost : Nat} (allowed : Bcrypt.minCost ≤ cost ∧ cost ≤ Bcrypt.maxCost)
    (salt : Vector UInt8 16) (p q : String) (wording : Bcrypt.Fault → Failure) :
    (do verify q (← ExceptT.mk (pure ((Bcrypt.hash cost salt.toList p).mapError wording)))
        : ExceptT Failure m Bool)
      = pure (decide (Bcrypt.PassesFor cost salt.toList p q)) := by
  have hsalt : salt.toList.length = 16 := Vector.length_toList
  have hmade : ExceptT.mk (pure ((Bcrypt.hash cost salt.toList p).mapError wording))
      = (pure (Bcrypt.text cost salt.toList (Bcrypt.digest cost salt.toList (Bcrypt.key p)))
        : ExceptT Failure m String) := by
    rw [Bcrypt.hash, Bcrypt.digestOf_allowed allowed, pure_bind]
    rfl
  rw [hmade, pure_bind, verify, Bcrypt.verify_text allowed hsalt]
  rfl

/-- Hashing a password and checking another one against the hash. -/
theorem verify_hash_eq (hasher : BcryptHasher)
    (allowed : Bcrypt.minCost ≤ hasher.cost ∧ hasher.cost ≤ Bcrypt.maxCost) (p q : String) :
    (do verify q (← hasher.hash p) : ExceptT Failure m Bool)
      = ExceptT.lift (do
          let salt ← freshBytes 16
          return decide (Bcrypt.PassesFor hasher.cost salt.toList p q)) := by
  rw [hash, bind_assoc]
  simp only [verify_of_salt allowed]
  apply ExceptT.ext
  rw [ExceptT.run_bind, ExceptT.run_lift, ExceptT.run_lift, bind_map_left, map_bind]
  simp only [map_pure, ExceptT.run_pure]

/-- A hash that was made at an allowed cost is checked without fail, and the answer is
whether both passwords have one digest under the salt that was drawn.  No password is
refused for its length or for its zero bytes, so a different one passes as soon as the
cipher is given the same bytes of it, whatever the cost and the salt. -/
theorem verify_hash (hasher : BcryptHasher)
    (allowed : Bcrypt.minCost ≤ hasher.cost ∧ hasher.cost ≤ Bcrypt.maxCost) (p q : String) :
    (do verify q (← hasher.hash p) : ExceptT Failure m Bool)
        = ExceptT.lift (do
            let salt ← freshBytes 16
            return decide (Bcrypt.PassesFor hasher.cost salt.toList p q))
      ∧ (Bcrypt.spread p = Bcrypt.spread q → ∀ cost salt, Bcrypt.PassesFor cost salt p q)
      ∧ ('\x00' ∉ p.toList → '\x00' ∉ q.toList →
          (Bcrypt.spread p = Bcrypt.spread q
            ↔ (Utf8.bytes p).take Bcrypt.keyLimit = (Utf8.bytes q).take Bcrypt.keyLimit)) :=
  ⟨hasher.verify_hash_eq allowed p q, fun h cost salt => Bcrypt.digest_congr cost salt h,
    Bcrypt.spread_eq_iff⟩

/-- Of 73 letters the last one is not missed. -/
theorem verify_hash_shortened :
    (do verify (Bcrypt.repeated 73) (← (⟨4⟩ : BcryptHasher).hash (Bcrypt.repeated 72))
        : ExceptT Failure (Virtual Unit) Bool)
      = ExceptT.lift (do
          let _ ← freshBytes 16
          return true) := by
  have htake := (Bcrypt.take_bytes_repeated (by decide : 72 ≤ 72)).trans
    (Bcrypt.take_bytes_repeated (by decide : 72 ≤ 73)).symm
  obtain ⟨heq, hspread, hbytes⟩ := verify_hash (m := Virtual Unit) ⟨4⟩ (by decide)
    (Bcrypt.repeated 72) (Bcrypt.repeated 73)
  have hpasses := hspread ((hbytes (by decide) (by decide)).2 htake)
  rw [heq]
  simp only [decide_eq_true (hpasses _ _)]

/-- A password of 72 letters and the same with one more: the hash of the first is not told
apart from one of the second. -/
theorem not_always_told_apart :
    ¬ ∀ (hasher : BcryptHasher) (p q : String) (rt : Runtime Unit),
      (Bcrypt.minCost ≤ hasher.cost ∧ hasher.cost ≤ Bcrypt.maxCost) → p ≠ q →
        ((do verify q (← hasher.hash p) : ExceptT Failure (Virtual Unit) Bool).run.runOn rt).1
          = .ok (.ok false) := by
  intro h
  have hdifferent : Bcrypt.repeated 72 ≠ Bcrypt.repeated 73 :=
    fun heq => absurd (Bcrypt.repeated_inj heq) (by decide)
  have hkey : Bcrypt.key (Bcrypt.repeated 72) = Bcrypt.key (Bcrypt.repeated 73) :=
    Bcrypt.key_eq_of_take ((Bcrypt.take_bytes_repeated (by decide)).trans
      (Bcrypt.take_bytes_repeated (by decide)).symm)
  have hpasses : ∀ salt, Bcrypt.PassesFor 4 salt (Bcrypt.repeated 72) (Bcrypt.repeated 73) :=
    fun salt => congrArg (Bcrypt.digest 4 salt) hkey
  have hfalse := h ⟨4⟩ (Bcrypt.repeated 72) (Bcrypt.repeated 73) (.new .counting ()) (by decide)
    hdifferent
  rw [verify_hash_eq ⟨4⟩ (by decide)] at hfalse
  simp only [decide_eq_true (hpasses _)] at hfalse
  cases hfalse

end BcryptHasher

/-! ## Digests that are not told apart -/

namespace Bcrypt

/-- A character of one byte other than zero. -/
def plainChar (n : Fin 127) : Char := Char.ofNat (n + 1)

theorem toNat_plainChar (n : Fin 127) : (plainChar n).toNat = n + 1 := by
  have hall : ∀ k < 127, (Char.ofNat (k + 1)).toNat = k + 1 := by decide
  exact hall n n.isLt

/-- A password of 27 such characters. -/
def plain (x : Fin 27 → Fin 127) : String := String.ofList (List.ofFn fun i => plainChar (x i))

theorem toList_plain (x : Fin 27 → Fin 127) :
    (plain x).toList = List.ofFn fun i => plainChar (x i) :=
  String.toList_ofList

theorem plain_inj {x y : Fin 27 → Fin 127} (h : plain x = plain y) : x = y := by
  have hchars : (fun i => plainChar (x i)) = fun i => plainChar (y i) := by
    rw [← List.ofFn_inj, ← toList_plain, ← toList_plain, h]
  funext i
  have hnat := congrArg Char.toNat (congrFun hchars i)
  rw [toNat_plainChar, toNat_plainChar] at hnat
  omega

theorem zero_notMem_plain (x : Fin 27 → Fin 127) : '\x00' ∉ (plain x).toList := by
  intro h
  rw [toList_plain] at h
  obtain ⟨i, hi⟩ := List.mem_ofFn.1 h
  have hnat := congrArg Char.toNat hi
  rw [toNat_plainChar] at hnat
  exact absurd hnat (Nat.succ_ne_zero _)

theorem length_bytes_plain (x : Fin 27 → Fin 127) : (Utf8.bytes (plain x)).length = 27 := by
  have hascii : ∀ c ∈ (plain x).toList, c.toNat < 0x80 := by
    intro c hc
    rw [toList_plain] at hc
    obtain ⟨i, rfl⟩ := List.mem_ofFn.1 hc
    rw [toNat_plainChar]
    omega
  rw [Utf8.bytes, Utf8.length_encode_of_ascii hascii, toList_plain, List.length_ofFn]

/-- No bound on passwords keeps all of them apart: there are more of 27 characters than
there are digests. -/
theorem exists_passesFor_short (cost : Nat) (salt : List UInt8) :
    ∃ p q : String, p ≠ q ∧ '\x00' ∉ p.toList ∧ '\x00' ∉ q.toList
      ∧ (Utf8.bytes p).length = 27 ∧ (Utf8.bytes q).length = 27 ∧ PassesFor cost salt p q := by
  let made (x : Fin 27 → Fin 127) (i : Fin 23) : Fin 256 :=
    ((digest cost salt (key (plain x))).getD i 0).toFin
  have hfewer : Fintype.card (Fin 23 → Fin 256) < Fintype.card (Fin 27 → Fin 127) := by
    simp only [Fintype.card_fun, Fintype.card_fin]
    norm_num
  obtain ⟨x, y, hne, hmade⟩ := Fintype.exists_ne_map_eq_of_card_lt made hfewer
  refine ⟨plain x, plain y, fun h => hne (plain_inj h), zero_notMem_plain x,
    zero_notMem_plain y, length_bytes_plain x, length_bytes_plain y, ?_⟩
  have hbyte : ∀ i : Fin 23, (digest cost salt (key (plain x))).getD i 0
      = (digest cost salt (key (plain y))).getD i 0 :=
    fun i => UInt8.toFin_inj.1 (congrFun hmade i)
  refine List.ext_getElem (by rw [length_digest, length_digest]) fun i hi hi' => ?_
  have hi23 : i < 23 := length_digest cost salt _ ▸ hi
  simpa [hi, hi'] using hbyte ⟨i, hi23⟩

end Bcrypt

end Gatehouse
