/-
  Gatehouse/Text/Utf8.lean --- characters as bytes and bytes as characters.

  `encode` writes a character in one to four bytes.  Reading goes through one
  function, `lead`, which looks at the front of a byte sequence and says which
  character stands there and how many continuation bytes it takes, or how many
  bytes form the longest beginning of a character that could have stood there.
  Strict reading (`decode?`), lenient reading with replacement characters
  (`decodeLossy`) and the search for the first fault (`firstFault?`) are all
  read off `lead`, so they agree on what well-formed text is.
-/

set_option autoImplicit false

namespace Gatehouse.Utf8

/-! ## Writing -/

/-- The bytes of one character. -/
def encodeChar (c : Char) : List UInt8 :=
  let n := c.toNat
  if n < 0x80 then [n.toUInt8]
  else if n < 0x800 then [(0xC0 + n / 64).toUInt8, (0x80 + n % 64).toUInt8]
  else if n < 0x10000 then
    [(0xE0 + n / 4096).toUInt8, (0x80 + n / 64 % 64).toUInt8, (0x80 + n % 64).toUInt8]
  else
    [(0xF0 + n / 262144).toUInt8, (0x80 + n / 4096 % 64).toUInt8,
      (0x80 + n / 64 % 64).toUInt8, (0x80 + n % 64).toUInt8]

/-- The bytes of a text, character by character. -/
def encode (cs : List Char) : List UInt8 := cs.flatMap encodeChar

/-- The bytes of a string. -/
def bytes (s : String) : List UInt8 := encode s.toList

@[simp] theorem encode_nil : encode [] = [] := rfl

@[simp] theorem encode_cons (c : Char) (cs : List Char) :
    encode (c :: cs) = encodeChar c ++ encode cs := by
  simp [encode]

theorem encode_append (a b : List Char) : encode (a ++ b) = encode a ++ encode b := by
  simp [encode]

/-! ## Reading -/

/-- Whether a byte lies between two bounds. -/
def within (lo hi b : UInt8) : Bool := lo ≤ b && b ≤ hi

/-- Whether a byte continues a character begun by an earlier one. -/
def continues (b : UInt8) : Bool := within 0x80 0xBF b

/-- The bounds of the second byte: they exclude overlong spellings, surrogates
and numbers past the last code point. -/
def secondBounds (b : UInt8) : UInt8 × UInt8 :=
  if b = 0xE0 then (0xA0, 0xBF)
  else if b = 0xED then (0x80, 0x9F)
  else if b = 0xF0 then (0x90, 0xBF)
  else if b = 0xF4 then (0x80, 0x8F)
  else (0x80, 0xBF)

/-- The front of a byte sequence: the character found there, if any; the number
of bytes after the first that belong to it (or, if there is none, to its longest
possible beginning); and whether the sequence ended before it could be decided. -/
structure Front where
  char : Option Char
  more : Nat
  cut : Bool
  deriving DecidableEq, Repr, Inhabited

/-- Reads the character that begins with byte `b`, followed by `rest`. -/
def lead (b : UInt8) (rest : List UInt8) : Front :=
  let (lo, hi) := secondBounds b
  if b < 0x80 then ⟨some (Char.ofNat b.toNat), 0, false⟩
  else if within 0xC2 0xDF b then
    match rest with
    | [] => ⟨none, 0, true⟩
    | c :: _ =>
        if continues c then
          ⟨some (Char.ofNat ((b.toNat - 0xC0) * 64 + (c.toNat - 0x80))), 1, false⟩
        else ⟨none, 0, false⟩
  else if within 0xE0 0xEF b then
    match rest with
    | [] => ⟨none, 0, true⟩
    | c :: rest =>
        if within lo hi c then
          match rest with
          | [] => ⟨none, 1, true⟩
          | d :: _ =>
              if continues d then
                ⟨some (Char.ofNat ((b.toNat - 0xE0) * 4096 + (c.toNat - 0x80) * 64
                  + (d.toNat - 0x80))), 2, false⟩
              else ⟨none, 1, false⟩
        else ⟨none, 0, false⟩
  else if within 0xF0 0xF4 b then
    match rest with
    | [] => ⟨none, 0, true⟩
    | c :: rest =>
        if within lo hi c then
          match rest with
          | [] => ⟨none, 1, true⟩
          | d :: rest =>
              if continues d then
                match rest with
                | [] => ⟨none, 2, true⟩
                | e :: _ =>
                    if continues e then
                      ⟨some (Char.ofNat ((b.toNat - 0xF0) * 262144 + (c.toNat - 0x80) * 4096
                        + (d.toNat - 0x80) * 64 + (e.toNat - 0x80))), 3, false⟩
                    else ⟨none, 2, false⟩
              else ⟨none, 1, false⟩
        else ⟨none, 0, false⟩
  else ⟨none, 0, false⟩

/-- The replacement character, which stands for bytes that spell nothing. -/
def replacement : Char := Char.ofNat 0xFFFD

/-- Reads text, refusing it when some byte spells nothing. -/
def decode? : List UInt8 → Option (List Char)
  | [] => some []
  | b :: rest =>
      match (lead b rest).char with
      | none => none
      | some c => (decode? (rest.drop (lead b rest).more)).map (c :: ·)
termination_by bs => bs.length
decreasing_by simp only [List.length_drop, List.length_cons]; omega

/-- Reads text, writing one replacement character for each longest beginning of
a character that is not completed. -/
def decodeLossy : List UInt8 → List Char
  | [] => []
  | b :: rest =>
      (lead b rest).char.getD replacement :: decodeLossy (rest.drop (lead b rest).more)
termination_by bs => bs.length
decreasing_by simp only [List.length_drop, List.length_cons]; omega

/-- Where a byte sequence stops being text: the number of sound bytes before the
fault, and the number of bytes at fault, none when the sequence ends too early. -/
structure Fault where
  soundBytes : Nat
  length : Option Nat
  deriving DecidableEq, Repr, Inhabited

/-- The first fault at or after position `at`. -/
def firstFaultFrom? (position : Nat) : List UInt8 → Option Fault
  | [] => none
  | b :: rest =>
      match (lead b rest).char with
      | some _ => firstFaultFrom? (position + 1 + (lead b rest).more)
          (rest.drop (lead b rest).more)
      | none =>
          some ⟨position, if (lead b rest).cut then none else some ((lead b rest).more + 1)⟩
termination_by bs => bs.length
decreasing_by simp only [List.length_drop, List.length_cons]; omega

/-- The first fault of a byte sequence, none when it is text. -/
def firstFault? (bs : List UInt8) : Option Fault := firstFaultFrom? 0 bs

/-- The wording of a fault. -/
def Fault.message (f : Fault) : String :=
  match f.length with
  | some n => s!"invalid utf-8 sequence of {n} bytes from index {f.soundBytes}"
  | none => s!"incomplete utf-8 byte sequence from index {f.soundBytes}"

/-- Reads bytes as a string, refusing what is not text. -/
def string? (bs : List UInt8) : Option String := (decode? bs).map String.ofList

end Gatehouse.Utf8
