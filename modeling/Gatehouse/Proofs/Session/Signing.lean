/-
  Gatehouse/Proofs/Session/Signing.lean --- signed claims and the texts that carry them.

  A token that is made is accepted with the claims that it was made for, and its text
  tells them apart from all others.  A token that is accepted has one shape only: two
  parts that spell a header and an object of claims, and the keyed hash of them.  Since
  bytes have one spelling in these letters, nothing about such a token can be written
  in another way.

  Main definitions: `Claims.InRange`, `Jwt.Announces`, `JwtSigner.Genuine`.
  Main statements: `JwtSigner.sign_faithful`, `JwtSigner.genuine_of_verify?`.
-/
import Gatehouse.Proofs.Json.RoundTrip
import Gatehouse.Session.Jwt

set_option autoImplicit false

namespace Gatehouse

/-! ## Claims as a value -/

/-- Whether a number is a signed one of 64 bits. -/
def IsInt64 (i : Int) : Prop := -0x8000000000000000 ≤ i ∧ i < 0x8000000000000000

instance (i : Int) : Decidable (IsInt64 i) := inferInstanceAs (Decidable (_ ∧ _))

theorem IsInt64.fitsWord {i : Int} (h : IsInt64 i) : Json.FitsWord i := by
  obtain ⟨lo, hi⟩ := h
  exact ⟨lo, by omega⟩

theorem IsInt64.of_int64? {v : Json} {i : Int} (h : v.int64? = some i) : IsInt64 i := by
  unfold Json.int64? at h
  split at h
  · obtain ⟨hrange, heq⟩ := Option.ite_none_right_eq_some.1 h
    cases heq
    exact hrange
  · cases h

namespace Claims

/-- Whether the times of some claims are signed numbers of 64 bits. -/
structure InRange (c : Claims) : Prop where
  iat : IsInt64 c.iat
  exp : IsInt64 c.exp

theorem fits_toJson {c : Claims} (h : c.InRange) : Json.Fits c.toJson :=
  ⟨trivial, h.iat.fitsWord, h.exp.fitsWord, trivial, trivial, trivial, trivial⟩

theorem ofJson?_toJson {c : Claims} (h : c.InRange) : ofJson? c.toJson = some c := by
  have hslots : c.toJson.record? ["sub", "iat", "exp", "iss", "jti", "typ"]
      = some [.given (.str c.sub), .given (.int c.iat), .given (.int c.exp),
          .given (.str c.iss), .given (.str c.jti), .given c.typ.toJson] := rfl
  have hiat : Json.int64? (.int c.iat) = some c.iat := if_pos h.iat
  have hexp : Json.int64? (.int c.exp) = some c.exp := if_pos h.exp
  have htyp : TokenKind.ofJson? c.typ.toJson = some c.typ := by
    cases c.typ
    · rfl
    · rfl
  simp only [ofJson?, hslots, Slot.required, Json.str?, hiat, hexp, htyp, Option.bind_eq_bind,
    Option.bind_some]

/-- Claims that are written alike are the same. -/
theorem eq_of_toJson_eq {c c' : Claims} (h : c.InRange) (h' : c'.InRange)
    (heq : c.toJson = c'.toJson) : c = c' := by
  have hread := ofJson?_toJson h
  rw [heq, ofJson?_toJson h'] at hread
  exact (Option.some.inj hread).symm

/-- The times of claims that are read are signed numbers of 64 bits. -/
theorem inRange_of_ofJson? {v : Json} {c : Claims} (h : ofJson? v = some c) : c.InRange := by
  have required : ∀ {slot : Slot} {i : Int}, slot.required Json.int64? = some i → IsInt64 i := by
    intro slot i h
    cases slot with
    | given v => exact .of_int64? h
    | absent => cases h
    | ended => cases h
  unfold ofJson? at h
  split at h
  · simp only [Option.bind_eq_bind, Option.bind_eq_some_iff] at h
    obtain ⟨sub, -, iat, hiat, exp, hexp, iss, -, jti, -, typ, -, hc⟩ := h
    cases hc
    exact ⟨required hiat, required hexp⟩
  · cases h

end Claims

namespace Jwt

/-! ## Parts -/

theorem dot_notMem_part (v : Json) : '.' ∉ part v := Base64Url.dot_notMem_encode _

theorem dot_notMem_signature (secret : String) (message : List Char) :
    '.' ∉ signature secret message := Base64Url.dot_notMem_encode _

theorem value?_part {v : Json} (fits : Json.Fits v) : value? (part v) = some v := by
  rw [value?, part, Base64Url.decode?_encode, Option.bind_some]
  exact Json.parseBytes?_render fits

theorem splitOn_join {a b c : List Char} (ha : '.' ∉ a) (hb : '.' ∉ b) (hc : '.' ∉ c) :
    ((a ++ '.' :: b) ++ '.' :: c).splitOn '.' = [a, b, c] := by
  rw [List.append_assoc, List.cons_append, List.splitOn_append_cons_self_of_not_mem ha,
    List.splitOn_append_cons_self_of_not_mem hb, List.splitOn_eq_singleton hc]

/-- A text is its parts with the dots put back. -/
theorem eq_join_of_splitOn {cs a b c : List Char} (h : cs.splitOn '.' = [a, b, c]) :
    cs = (a ++ '.' :: b) ++ '.' :: c := by
  have hjoin : ['.'].intercalate (cs.splitOn '.') = cs := List.intercalate_splitOn '.'
  rw [h, List.intercalate_cons_cons, List.intercalate_cons_cons, List.intercalate_singleton]
    at hjoin
  rw [← hjoin]
  simp only [List.append_assoc, List.cons_append, List.nil_append]

theorem parts?_eq_some_iff {cs a b c : List Char} :
    parts? cs = some (a, b, c) ↔ cs.splitOn '.' = [a, b, c] := by
  unfold parts?
  constructor
  · intro h
    split at h
    · rename_i hsplit
      cases h
      exact hsplit
    · cases h
  · intro h
    rw [h]

/-! ## Headers and payloads -/

/-- Whether a value is a name, as a text or as the only key of an object. -/
def Names (name : String) (v : Json) : Prop := v = .str name ∨ v = .obj [(name, .null)]

/-- Whether a header names an algorithm: under its one key `alg`, or in the second
place of a list. -/
def Announces (name : String) : Json → Prop
  | .obj members => ∃ v, members.filter (fun m => m.1 == "alg") = [("alg", v)] ∧ Names name v
  | .arr items => ∃ v, items[1]? = some v ∧ Names name v
  | _ => False

theorem names_of_oneOf? {name : String} {v : Json} (h : (oneOf? [name] v).isSome) :
    Names name v := by
  have hkey : ∀ {s : String}, ([(name, name)].lookup s).isSome → s = name := by
    intro s hs
    by_cases heq : s = name
    · exact heq
    · rw [List.lookup_cons, beq_false_of_ne heq] at hs
      cases hs
  simp only [oneOf?, List.map_cons, List.map_nil] at h
  unfold Json.name? at h
  split at h
  · exact .inl (congrArg Json.str (hkey h))
  · exact .inr (by rw [hkey h])
  · cases h

theorem slot?_eq_given {members : List (String × Json)} {key : String} {v : Json}
    (h : Json.slot? members key = some (.given v)) :
    members.filter (fun m => m.1 == key) = [(key, v)] := by
  unfold Json.slot? at h
  split at h
  · cases h
  · rename_i m hfilter
    cases h
    have hmem : m ∈ members.filter (fun m => m.1 == key) := by
      rw [hfilter]
      exact List.mem_singleton_self m
    have hkey : m.1 = key := eq_of_beq (List.mem_filter.1 hmem).2
    rw [hfilter, ← hkey]
  · cases h

/-- The slot of the algorithm, when it is filled. -/
theorem announced_of_record? {head : Json} {name : String} {typ : Slot} {v : Json}
    {keys : List String} {slots : List Slot}
    (h : head.record? ("typ" :: "alg" :: keys) = some (typ :: .given v :: slots))
    (hv : Names name v) : Announces name head := by
  cases head with
  | obj members =>
    simp only [Json.record?, List.mapM_cons, Option.bind_eq_bind, Option.bind_eq_some_iff,
      Option.pure_def, Option.some.injEq, List.cons.injEq] at h
    obtain ⟨s, -, more, ⟨a, ha, tail, -, hmore⟩, -, rfl⟩ := h
    obtain ⟨rfl, -⟩ := List.cons.inj hmore
    exact ⟨v, slot?_eq_given ha, hv⟩
  | arr items =>
    rcases items with _ | ⟨w, _ | ⟨w₁, rest⟩⟩
    · simp [Json.record?, Json.listSlots?] at h
    · simp [Json.record?, Json.listSlots?] at h
    · simp only [Json.record?, Json.listSlots?, Option.map_eq_some_iff] at h
      obtain ⟨_, ⟨_, -, rfl⟩, heq⟩ := h
      cases heq
      exact ⟨v, rfl, hv⟩
  | null | bool _ | int _ | real | str _ | garbled => cases h

theorem announces_of_isHeader {head : Json} (h : isHeader head = true) :
    Announces "HS256" head := by
  unfold isHeader at h
  split at h
  · rename_i typ alg cty jku jwk kid x5u x5c x5t x5t256 hslots
    simp only [Bool.and_eq_true] at h
    obtain ⟨⟨⟨-, halg⟩, -⟩, -⟩ := h
    cases alg with
    | given v => exact announced_of_record? hslots (names_of_oneOf? halg)
    | absent => cases halg
    | ended => cases halg
  · cases h

theorem claims?_toJson {issuer : String} {c : Claims} (h : c.InRange) (iss : c.iss = issuer)
    (exp : 0 ≤ c.exp) : claims? issuer c.toJson = some c := by
  have hslots : c.toJson.record? ["aud", "nbf"] = some [.absent, .absent] := rfl
  have hclaims : claims? issuer c.toJson = (Claims.ofJson? c.toJson).filter fun c =>
      decide (0 ≤ c.exp) && c.iss == issuer && namesNoAudience .absent
        && mayBeSkipped .absent := rfl
  rw [hclaims, Claims.ofJson?_toJson h, Option.filter_some, iss]
  simp only [exp, decide_true, BEq.rfl, namesNoAudience, mayBeSkipped, Bool.and_true, if_true]

/-- Claims that may be accepted are read off an object. -/
theorem of_claims? {issuer : String} {v : Json} {c : Claims} (h : claims? issuer v = some c) :
    (∃ members, v = .obj members) ∧ Claims.ofJson? v = some c ∧ c.iss = issuer ∧ 0 ≤ c.exp := by
  unfold claims? at h
  split at h
  · rename_i members aud nbf hslots
    obtain ⟨hread, hchecks⟩ := Option.filter_eq_some_iff.1 h
    simp only [Bool.and_eq_true, decide_eq_true_eq, beq_iff_eq] at hchecks
    exact ⟨⟨members, rfl⟩, hread, hchecks.1.1.2, hchecks.1.1.1⟩
  · cases h

end Jwt

namespace JwtSigner

variable {s : JwtSigner} {t t' : String} {c c' : Claims}

/-! ## Tokens that are made -/

theorem splitOn_sign (s : JwtSigner) (c : Claims) :
    (s.sign c).toList.splitOn '.' = [Jwt.part Jwt.header, Jwt.part c.toJson,
      Jwt.signature s.secret (Jwt.part Jwt.header ++ '.' :: Jwt.part c.toJson)] := by
  rw [sign, String.toList_ofList]
  exact Jwt.splitOn_join (Jwt.dot_notMem_part _) (Jwt.dot_notMem_part _)
    (Jwt.dot_notMem_signature _ _)

theorem verify?_sign (h : c.InRange) (iss : c.iss = s.issuer) (exp : 0 ≤ c.exp) :
    s.verify? (s.sign c) = some c := by
  have hheader : Jwt.value? (Jwt.part Jwt.header) = some Jwt.header :=
    Jwt.value?_part ⟨trivial, trivial, trivial⟩
  have hannounced : Jwt.isHeader Jwt.header = true := by decide
  rw [verify?, Jwt.parts?_eq_some_iff.2 (splitOn_sign s c)]
  simp only [Option.bind_eq_bind, Option.bind_some, hheader, hannounced, BEq.rfl, Bool.and_true,
    if_true]
  rw [Jwt.value?_part (Claims.fits_toJson h), Option.bind_some]
  exact Jwt.claims?_toJson h iss exp

/-- The payload alone tells the claims of a token, whoever signed it. -/
theorem eq_of_sign_eq {s' : JwtSigner} (h : c.InRange) (h' : c'.InRange)
    (heq : s.sign c = s'.sign c') : c = c' := by
  have hparts := splitOn_sign s c
  rw [heq, splitOn_sign s' c'] at hparts
  have hpart : Jwt.part c'.toJson = Jwt.part c.toJson := (List.cons.inj (List.cons.inj hparts).2).1
  have hvalue := Jwt.value?_part (Claims.fits_toJson h)
  rw [← hpart, Jwt.value?_part (Claims.fits_toJson h')] at hvalue
  exact (Claims.eq_of_toJson_eq h' h (Option.some.inj hvalue)).symm

/-- A token that is made is accepted with its claims, and no other claims make it. -/
theorem sign_faithful (s : JwtSigner) :
    (∀ c : Claims, c.InRange → c.iss = s.issuer → 0 ≤ c.exp → s.verify? (s.sign c) = some c) ∧
      ∀ c c' : Claims, c.InRange → c'.InRange → c ≠ c' → s.sign c ≠ s.sign c' := by
  constructor
  · intro c h iss exp
    exact verify?_sign h iss exp
  · intro c c' h h' hne heq
    exact hne (eq_of_sign_eq h h' heq)

/-- Two sets of claims with unusual texts and times, and their tokens. -/
theorem sign_faithful_unusual :
    let s : JwtSigner := { secret := "clé", issuer := "gate \"😀\"" }
    let c : Claims :=
      { sub := "a\tb", iat := -3, exp := 0x7FFFFFFFFFFFFFFF, iss := "gate \"😀\"", jti := "",
        typ := .refresh }
    s.verify? (s.sign c) = some c ∧ s.sign c ≠ s.sign { c with typ := .access } := by
  intro s c
  have hc : c.InRange := ⟨by decide, by decide⟩
  have hc' : ({ c with typ := .access } : Claims).InRange := ⟨hc.iat, hc.exp⟩
  exact ⟨(sign_faithful s).1 c hc rfl (by decide), (sign_faithful s).2 c _ hc hc' (by decide)⟩

/-! ## Tokens that are accepted -/

/-- What makes a token genuine: its last part is the keyed hash of what stands before
the last dot, its header announces how, and its payload is an object of claims that
expire and name the issuer. -/
structure Genuine (s : JwtSigner) (t : String) (header payload : List Char) (c : Claims) :
    Prop where
  parts : t.toList.splitOn '.' = [header, payload, Base64Url.encode
    (Hmac.sha256 (Utf8.bytes s.secret) (Utf8.encode (header ++ '.' :: payload)))]
  text : t.toList = (header ++ '.' :: payload) ++ '.' :: Base64Url.encode
    (Hmac.sha256 (Utf8.bytes s.secret) (Utf8.encode (header ++ '.' :: payload)))
  announces : ∃ head, Jwt.value? header = some head ∧ Jwt.Announces "HS256" head
  claims : ∃ members, Jwt.value? payload = some (.obj members)
    ∧ Claims.ofJson? (.obj members) = some c
  iss : c.iss = s.issuer
  exp : 0 ≤ c.exp

theorem exists_genuine (h : s.verify? t = some c) :
    ∃ header payload, s.Genuine t header payload c := by
  simp only [verify?, Option.bind_eq_bind, Option.bind_eq_some_iff,
    Option.ite_none_right_eq_some, Bool.and_eq_true, beq_iff_eq] at h
  obtain ⟨⟨header, payload, signature⟩, hparts, head, hhead, ⟨hannounced, hsignature⟩, v, hv,
    hclaims⟩ := h
  obtain ⟨⟨members, rfl⟩, hread, iss, exp⟩ := Jwt.of_claims? hclaims
  dsimp only at hhead hsignature hv
  have hsplit := Jwt.parts?_eq_some_iff.1 hparts
  rw [hsignature] at hsplit
  exact ⟨header, payload, hsplit, Jwt.eq_join_of_splitOn hsplit,
    ⟨head, hhead, Jwt.announces_of_isHeader hannounced⟩, ⟨members, hv, hread⟩, iss, exp⟩

/-- A part that spells a value spells its bytes, and no other part does. -/
theorem part_eq {part part' : List Char} {v : Json} (h : Jwt.value? part = some v)
    (heq : Base64Url.decode? part' = Base64Url.decode? part) : part' = part := by
  obtain ⟨bytes, hbytes, -⟩ := Option.bind_eq_some_iff.1 h
  rw [hbytes] at heq
  rw [← Base64Url.encode_of_decode? hbytes, ← Base64Url.encode_of_decode? heq]

/-- A token that is accepted is genuine, and no other text is accepted whose header and
payload spell the same bytes. -/
theorem genuine_of_verify? (h : s.verify? t = some c) :
    ∃ header payload, s.Genuine t header payload c ∧
      ∀ t' c' header' payload' signature', s.verify? t' = some c' →
        t'.toList.splitOn '.' = [header', payload', signature'] →
        Base64Url.decode? header' = Base64Url.decode? header →
        Base64Url.decode? payload' = Base64Url.decode? payload → t' = t := by
  obtain ⟨header, payload, hg⟩ := exists_genuine h
  refine ⟨header, payload, hg, ?_⟩
  intro t' c' header' payload' signature' haccepted hsplit hheader hpayload
  obtain ⟨_, _, hg'⟩ := exists_genuine haccepted
  have hsame := hg'.parts
  rw [hsplit] at hsame
  obtain ⟨rfl, hsame⟩ := List.cons.inj hsame
  obtain ⟨rfl, -⟩ := List.cons.inj hsame
  obtain ⟨_, hhead, -⟩ := hg.announces
  obtain ⟨_, hclaims, -⟩ := hg.claims
  have htext : t'.toList = t.toList := by
    rw [hg'.text, hg.text, part_eq hhead hheader, part_eq hclaims hpayload]
  exact String.toList_inj.1 htext

/-- A token that was made has no other spelling. -/
theorem genuine_of_verify?_made :
    let s : JwtSigner := { secret := "key", issuer := "gate" }
    let c : Claims := { sub := "", iat := 0, exp := 9, iss := "gate", jti := "", typ := .access }
    s.verify? (s.sign c) = some c ∧ ∃ header payload, s.Genuine (s.sign c) header payload c := by
  intro s c
  have haccepted : s.verify? (s.sign c) = some c :=
    verify?_sign ⟨by decide, by decide⟩ rfl (by decide)
  obtain ⟨header, payload, hgenuine, -⟩ := genuine_of_verify? haccepted
  exact ⟨haccepted, header, payload, hgenuine⟩

end JwtSigner

end Gatehouse
