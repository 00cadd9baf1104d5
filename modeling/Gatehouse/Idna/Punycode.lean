/-
  Gatehouse/Idna/Punycode.lean --- any text as letters, digits and hyphens.

  The ASCII characters of a text come first, then a hyphen if there are any, then
  the other characters with their places, each as the distance from the one
  before.  A distance is written to base 36 with digits whose range adapts to the
  size of the distances so far.

  Main definitions: `Punycode.encode`, `Punycode.decode?`.
-/

set_option autoImplicit false

namespace Gatehouse.Punycode

/-! ## Digits -/

/-- The character of a digit. -/
def digit (d : Nat) : Char := if d < 26 then Char.ofNat (97 + d) else Char.ofNat (22 + d)

/-- The digit of a character. -/
def value? (c : Char) : Option Nat :=
  let n := c.toNat
  if 97 ≤ n ∧ n ≤ 122 then some (n - 97)
  else if 48 ≤ n ∧ n ≤ 57 then some (n - 22)
  else none

/-- Where the range of the digit at position `k` begins. -/
def threshold (k bias : Nat) : Nat :=
  if k ≤ bias then 1 else if bias + 26 ≤ k then 26 else k - bias

theorem one_le_threshold (k bias : Nat) : 1 ≤ threshold k bias := by
  unfold threshold
  split
  · omega
  · split <;> omega

theorem threshold_le (k bias : Nat) : threshold k bias ≤ 26 := by
  unfold threshold
  split
  · omega
  · split <;> omega

/-- Brings a distance below a bound, counting the steps. -/
def shrink (delta k : Nat) : Nat × Nat :=
  if 455 < delta then shrink (delta / 35) (k + 36) else (delta, k)
termination_by delta
decreasing_by omega

/-- The bias after a distance, the `count`-th. -/
def adapt (delta count : Nat) (isFirst : Bool) : Nat :=
  let d := if isFirst then delta / 700 else delta / 2
  let (d, k) := shrink (d + d / count) 0
  k + 36 * d / (d + 38)

/-! ## Writing -/

/-- The digits of a distance, from position `k` on. -/
def digits (bias k n : Nat) : List Char :=
  let t := threshold k bias
  if n < t then [digit n]
  else digit (t + (n - t) % (36 - t)) :: digits bias (k + 36) ((n - t) / (36 - t))
termination_by n
decreasing_by
  have h1 := one_le_threshold k bias
  have h2 := threshold_le k bias
  calc (n - threshold k bias) / (36 - threshold k bias)
      ≤ n - threshold k bias := Nat.div_le_self _ _
    _ < n := by omega

/-- The state of writing: what has been written, the distance so far, the bias, and
the number of characters that are done. -/
structure Writer where
  written : List Char
  delta : Nat
  bias : Nat
  done : Nat
  deriving DecidableEq, Repr, Inhabited

/-- Passes a character of the text on the way to those with number `n`. -/
def Writer.pass (basics n : Nat) (w : Writer) (c : Char) : Writer :=
  if c.toNat < n then { w with delta := w.delta + 1 }
  else if c.toNat = n then
    { written := w.written ++ digits w.bias 36 w.delta
      delta := 0
      bias := adapt w.delta (w.done + 1) (w.done = basics)
      done := w.done + 1 }
  else w

/-- Writes the characters with the given numbers, in rising order, `from` being the
least number not yet passed. -/
def writeFrom (text : List Char) (basics start : Nat) : List Nat → Writer → Writer
  | [], w => w
  | n :: rest, w =>
      let w := { w with delta := w.delta + (n - start) * (w.done + 1) }
      let w := text.foldl (Writer.pass basics n) w
      writeFrom text basics (n + 1) rest { w with delta := w.delta + 1 }

/-- Adds a number to a rising list, once. -/
def insertNumber (n : Nat) : List Nat → List Nat
  | [] => [n]
  | m :: rest =>
      if n < m then n :: m :: rest
      else if n = m then m :: rest
      else m :: insertNumber n rest

/-- Whether a character is an ASCII one. -/
def isBasic (c : Char) : Bool := c.toNat < 0x80

/-- The written form of a text. -/
def encode (text : List Char) : List Char :=
  let basics := text.filter isBasic
  let others := (text.filter fun c => !isBasic c).foldr (fun c acc => insertNumber c.toNat acc) []
  let w := writeFrom text basics.length 0x80 others ⟨[], 0, 72, basics.length⟩
  (if basics.isEmpty then [] else basics ++ ['-']) ++ w.written

/-! ## Reading -/

/-- The largest number that a distance may reach while it is read. -/
def limit : Nat := 0xFFFFFFFF

/-- Reads a distance on top of `sum`; returns it with the rest of the digits. -/
def readDistance? (bias : Nat) : List Char → (k weight sum : Nat) →
    Option (Nat × List Char)
  | [], _, _, _ => none
  | c :: cs, k, weight, sum => do
      let d ← value? c
      if sum + d * weight > limit then none
      else if d < threshold k bias then some (sum + d * weight, cs)
      else if weight * (36 - threshold k bias) > limit then none
      else readDistance? bias cs (k + 36) (weight * (36 - threshold k bias)) (sum + d * weight)

theorem length_readDistance? {bias : Nat} {cs rest : List Char} {k weight sum n : Nat}
    (h : readDistance? bias cs k weight sum = some (n, rest)) : rest.length < cs.length := by
  induction cs generalizing k weight sum with
  | nil => simp [readDistance?] at h
  | cons c cs ih =>
    simp only [readDistance?, Option.bind_eq_bind, Option.bind_eq_some_iff] at h
    obtain ⟨d, _, h⟩ := h
    split at h
    · simp at h
    · split at h
      · simp only [Option.some.injEq, Prod.mk.injEq] at h
        obtain ⟨_, rfl⟩ := h
        simp
      · split at h
        · simp at h
        · have := ih h
          simp only [List.length_cons]
          omega

/-- Whether a number is that of a character. -/
def isCharNumber (n : Nat) : Bool := n < 0xD800 || (0xDFFF < n && n ≤ 0x10FFFF)

/-- Reads the characters that are not ASCII into a text: the last one had the number
`last`, and the next place is `place`. -/
def readFrom? (text : List Char) (last place bias : Nat) (digits : List Char) :
    Option (List Char) :=
  match digits with
  | [] => some text
  | c :: cs =>
      match _step : readDistance? bias (c :: cs) 36 1 place with
      | none => none
      | some (sum, rest) =>
          let count := text.length + 1
          let n := last + sum / count
          let here := sum % count
          if isCharNumber n then
            readFrom? (text.take here ++ Char.ofNat n :: text.drop here) n (here + 1)
              (adapt (sum - place) count (place = 0)) rest
          else none
termination_by digits.length
decreasing_by exact length_readDistance? _step

/-- The part before the last hyphen and the part after it.  A hyphen at the beginning
is no end of a part, and belongs to the digits. -/
def splitBasics (cs : List Char) : List Char × List Char :=
  let tail := (cs.reverse.takeWhile (· ≠ '-')).reverse
  let front := (cs.take (cs.length - tail.length)).dropLast
  if front.isEmpty then ([], cs) else (front, tail)

/-- Reads a written form, none when it is that of no text. -/
def decode? (cs : List Char) : Option (List Char) :=
  let (basics, digits) := splitBasics cs
  if basics.all isBasic then readFrom? basics 0x80 0 72 digits else none

end Gatehouse.Punycode
