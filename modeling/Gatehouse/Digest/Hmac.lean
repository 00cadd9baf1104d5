/-
  Gatehouse/Digest/Hmac.lean --- keyed hashing with SHA-256.

  The key fills one block: a longer key is hashed first, a shorter one is filled
  up with zeros.  The message is hashed behind the key with one mask, and the
  result behind the key with another.

  Main definition: `Hmac.sha256`.
-/
import Gatehouse.Digest.Sha256

set_option autoImplicit false

namespace Gatehouse.Hmac

/-- The length of a block in bytes. -/
def blockLength : Nat := 64

/-- The key as one block. -/
def blockKey (key : List UInt8) : List UInt8 :=
  let k := if key.length > blockLength then Sha256.hash key else key
  k ++ List.replicate (blockLength - k.length) 0

/-- The 32 bytes of the keyed hash of a message. -/
def sha256 (key message : List UInt8) : List UInt8 :=
  let k := blockKey key
  Sha256.hash (k.map (· ^^^ 0x5C) ++ Sha256.hash (k.map (· ^^^ 0x36) ++ message))

end Gatehouse.Hmac
