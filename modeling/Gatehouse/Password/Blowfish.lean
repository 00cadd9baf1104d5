/-
  Gatehouse/Password/Blowfish.lean --- the block cipher Blowfish with a costly key.

  The cipher mixes a block of two words in 16 rounds, by 18 round words and four
  boxes of 256 words.  All of them start as the bits of the fractional part of π, and
  are replaced, two at a time, by what the cipher makes of the words before.  Doing so
  once for every key and salt is cheap; the key schedule of bcrypt does it so often
  that trying out keys takes long.

  Main definitions: `Blowfish.State`, `Blowfish.encrypt`, `Blowfish.schedule`.
-/

set_option autoImplicit false

namespace Gatehouse.Blowfish

/-! ## The bits of π -/

/-- A sum of alternating terms of the series of the arc tangent of `1 / x`, from the
term with the odd divisor `k` on; `power` is the scale over the power of `x` before. -/
def arctanTerms (x : Nat) : Nat → Nat → Nat → Int
  | 0, _, _ => 0
  | n + 1, k, power => (power / k : Nat) - arctanTerms x n (k + 2) (power / (x * x))

/-- The arc tangent of `1 / x` at a scale, by `n` terms. -/
def arctan (x scale n : Nat) : Int := arctanTerms x n 1 (scale / x)

/-- How many words there are. -/
def wordCount : Nat := 18 + 4 * 256

/-- How many bits are computed beyond those that are used. -/
def guardBits : Nat := 64

/-- The bits of π behind the point, with the guard bits: four times the arc tangent of
one, by Machin's formula. -/
def piBits : Nat :=
  let scale := Nat.pow 2 (32 * wordCount + guardBits)
  (16 * arctan 5 scale 7300 - 4 * arctan 239 scale 2150 - 3 * scale).toNat

/-! ## The state -/

/-- The round words, and behind them the boxes. -/
abbrev State := Array UInt32

/-- The word of π at an index. -/
def piWord (i : Nat) : UInt32 :=
  (piBits >>> (32 * (wordCount - 1 - i) + guardBits)).toUInt32

/-- The state before any key. -/
def initial : State := (Array.range wordCount).map piWord

/-- The word of a box that a byte of a word selects. -/
def look (w : State) (box : Nat) (x : UInt32) (shift : UInt32) : UInt32 :=
  w.getD (18 + 256 * box + ((x >>> shift) &&& 255).toNat) 0

/-- The function of a round. -/
def mix (w : State) (x : UInt32) : UInt32 :=
  ((look w 0 x 24 + look w 1 x 16) ^^^ look w 2 x 8) + look w 3 x 0

/-- A block. -/
structure Block where
  left : UInt32
  right : UInt32
  deriving DecidableEq, Repr, Inhabited

/-- The block after `n` rounds, the first of them with the round word at `i`. -/
def rounds (w : State) : (n i : Nat) → Block → Block
  | 0, _, b => b
  | n + 1, i, b =>
      let l := b.left ^^^ w.getD i 0
      rounds w n (i + 1) ⟨b.right ^^^ mix w l, l⟩

/-- The cipher. -/
def encrypt (w : State) (b : Block) : Block :=
  let b := rounds w 16 0 b
  ⟨b.right ^^^ w.getD 17 0, b.left ^^^ w.getD 16 0⟩

/-! ## The key schedule -/

/-- The word that four bytes of a cycle of bytes make, from an index on. -/
def cyclicWord (bytes : Array UInt8) (i : Nat) : UInt32 :=
  (List.range 4).foldl (fun w j =>
    (w <<< 8) ||| (bytes.getD ((i + j) % bytes.size) 0).toUInt32) 0

/-- The first `n` words of a cycle of bytes. -/
def cyclicWords (bytes : List UInt8) (n : Nat) : Array UInt32 :=
  let bytes := bytes.toArray
  (Array.range n).map fun i => cyclicWord bytes (4 * i)

/-- Adds a key to the round words. -/
def addKey (key : Array UInt32) : (n : Nat) → State → State
  | 0, w => w
  | n + 1, w => addKey key n (w.modify n fun x => x ^^^ key.getD n 0)

/-- Replaces `n` pairs of words, from the pair at `j` on, by what the cipher makes of
the pair before with the words of a salt added. -/
def refill (salt : Array UInt32) : (n j : Nat) → Block → State → State
  | 0, _, _, w => w
  | n + 1, j, b, w =>
      let b := encrypt w ⟨b.left ^^^ salt.getD ((2 * j) % 4) 0,
        b.right ^^^ salt.getD ((2 * j + 1) % 4) 0⟩
      refill salt n (j + 1) b ((w.setIfInBounds (2 * j) b.left).setIfInBounds (2 * j + 1) b.right)

/-- Works a key and a salt into the state. -/
def expand (salt key : Array UInt32) (w : State) : State :=
  refill salt (wordCount / 2) 0 ⟨0, 0⟩ (addKey key 18 w)

/-- Works two keys in turn into the state, `n` times. -/
def alternate (key other : Array UInt32) : (n : Nat) → State → State
  | 0, w => w
  | n + 1, w => alternate key other n (expand #[] other (expand #[] key w))

/-- The state for a key and a salt, at a cost: the work doubles with each step of it. -/
def schedule (cost : Nat) (salt key : List UInt8) : State :=
  let keyWords := cyclicWords key 18
  alternate keyWords (cyclicWords salt 18) (Nat.pow 2 cost)
    (expand (cyclicWords salt 4) keyWords initial)

end Gatehouse.Blowfish
