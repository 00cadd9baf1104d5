/-
  Gatehouse/Password/Bcrypt.lean --- hashes of passwords.

  The key is the password with a zero byte behind it, of which the first 72 bytes
  count.  A fixed text is encrypted with the state that key, salt and cost give.  A
  hash names its version, its cost, its salt and what became of the text; it is split
  at dollar signs, of which any number may stand between two parts.

  Main definitions: `Bcrypt.digest`, `Bcrypt.Parts.ofText`, `Bcrypt.verify`, and the
  instance of `PasswordHasher` for a cost.
-/
import Gatehouse.Account.Service
import Gatehouse.Digest.Sha256
import Gatehouse.Password.Blowfish
import Gatehouse.Password.Radix64
import Gatehouse.Text.Numeral

set_option autoImplicit false

namespace Gatehouse

namespace Bcrypt

/-! ## Faults -/

/-- Why a password is not hashed or a hash not understood. -/
inductive Fault where
  | costNotAllowed (cost : Nat)
  | hash (text : String)
  | version (text : String)
  | cost (text : String)
  | letters (fault : Radix64.Fault)
  deriving DecidableEq, Repr, Inhabited

/-- The least and the greatest cost. -/
def minCost : Nat := 4

@[inherit_doc minCost]
def maxCost : Nat := 31

/-- The wording of a fault. -/
def Fault.message : Fault → String
  | .costNotAllowed n => s!"Cost needs to be between {minCost} and {maxCost}, got {n}"
  | .hash s => "Invalid hash: " ++ s
  | .version s => "Invalid Prefix: " ++ s
  | .cost s => "Invalid Cost: " ++ s
  | .letters f => "Base64 error: " ++ f.message

/-! ## Hashing -/

/-- The number of bytes of a key that count. -/
def keyLimit : Nat := 72

/-- The key of a password. -/
def key (password : String) : List UInt8 := (Utf8.bytes password ++ [0]).take keyLimit

/-- The text that is encrypted, as three blocks. -/
def plainBlocks : List Blowfish.Block :=
  [⟨0x4f727068, 0x65616e42⟩, ⟨0x65686f6c, 0x64657253⟩, ⟨0x63727944, 0x6f756274⟩]

/-- A block encrypted `n` times. -/
def encryptTimes (state : Blowfish.State) : Nat → Blowfish.Block → Blowfish.Block
  | 0, b => b
  | n + 1, b => encryptTimes state n (Blowfish.encrypt state b)

/-- The 23 bytes that come of a key, a salt and a cost. -/
def digest (cost : Nat) (salt key : List UInt8) : List UInt8 :=
  let state := Blowfish.schedule cost salt key
  (plainBlocks.flatMap fun b =>
    let b := encryptTimes state 64 b
    Sha256.wordBytes b.left ++ Sha256.wordBytes b.right).take 23

/-- The digest of a password, if the cost is allowed. -/
def digestOf (cost : Nat) (salt : List UInt8) (password : String) :
    Except Fault (List UInt8) :=
  if minCost ≤ cost ∧ cost ≤ maxCost then .ok (digest cost salt (key password))
  else .error (.costNotAllowed cost)

/-! ## Hashes as text -/

/-- The parts of a hash; salt and digest are still letters. -/
structure Parts where
  cost : Nat
  salt : List UInt8
  digest : List UInt8
  deriving DecidableEq, Repr, Inhabited

/-- The names of versions that are read; they do not differ in what they mean. -/
def versions : List String := ["2y", "2b", "2a", "2x"]

/-- How many letters a salt has, and how many it has with the digest. -/
def saltLetters : Nat := 22

@[inherit_doc saltLetters]
def bodyLetters : Nat := 53

/-- Whether a sequence of bytes begins a character at a place. -/
def isBoundary (bytes : List UInt8) (position : Nat) : Bool :=
  match bytes[position]? with
  | some b => !Utf8.continues b
  | none => true

/-- Splits a hash. -/
def Parts.ofText (s : String) : Except Fault Parts :=
  match (s.toList.splitOn '$').filter fun part => !part.isEmpty with
  | [version, cost, body] =>
      if String.ofList version ∉ versions then .error (.version (String.ofList version))
      else
        match Numeral.readUnsigned Numeral.max32 cost with
        | .error _ => .error (.cost (String.ofList cost))
        | .ok n =>
            let bytes := Utf8.encode body
            if bytes.length = bodyLetters ∧ isBoundary bytes saltLetters then
              .ok { cost := n, salt := bytes.take saltLetters, digest := bytes.drop saltLetters }
            else .error (.hash s)
  | _ => .error (.hash s)

/-- A number of at least two digits. -/
def twoDigits (n : Nat) : List Char :=
  if n < 10 then '0' :: Numeral.ofNat n else Numeral.ofNat n

/-- The text of a hash. -/
def text (cost : Nat) (salt digest : List UInt8) : String :=
  String.ofList ("$2b$".toList ++ twoDigits cost ++ '$' :: Radix64.encode salt
    ++ Radix64.encode digest)

/-- The hash of a password under a salt. -/
def hash (cost : Nat) (salt : List UInt8) (password : String) : Except Fault String := do
  let d ← digestOf cost salt password
  pure (text cost salt d)

/-- Whether a password is the one behind a hash. -/
def verify (password hash : String) : Except Fault Bool := do
  let parts ← Parts.ofText hash
  let salt ← (Radix64.decode parts.salt).mapError .letters
  let made ← digestOf parts.cost salt password
  let kept ← (Radix64.decode parts.digest).mapError .letters
  pure (kept == made)

end Bcrypt

/-! ## The hasher -/

/-- Hashing at a cost. -/
structure BcryptHasher where
  cost : Nat
  deriving DecidableEq, Repr, Inhabited

namespace BcryptHasher

/-- The hasher that is used when no cost is given. -/
def default : BcryptHasher := ⟨10⟩

variable {m : Type → Type} [Monad m] [MonadRandom m]

/-- The hash of a password under a fresh salt. -/
def hash (h : BcryptHasher) (password : String) : ExceptT Failure m String := do
  let salt ← ExceptT.lift (freshBytes 16)
  ExceptT.mk (pure ((Bcrypt.hash h.cost salt.toList password).mapError fun f =>
    .internal ("Failed to hash password: " ++ f.message)))

omit [MonadRandom m] in
/-- Whether a password is the one behind a hash. -/
def verify (password hash : String) : ExceptT Failure m Bool :=
  ExceptT.mk (pure ((Bcrypt.verify password hash).mapError fun f =>
    .internal ("Failed to check password: " ++ f.message)))

instance : PasswordHasher (ReaderT BcryptHasher m) where
  hash password := fun h => h.hash password
  verify password hash := fun _ => (verify password hash).run

end BcryptHasher

end Gatehouse
