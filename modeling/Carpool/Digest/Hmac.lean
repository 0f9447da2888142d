import Carpool.Digest.Sha256

/-!
# Keyed hashes

The message authentication code that is built from SHA-256 with a secret key.
-/

namespace Carpool

namespace Hmac

/-- The octets in a block of the hash function. -/
def blockLength : Nat := 64

/-- A key of any length as one block: a long key is hashed, a short one is
filled up with zeros. -/
def blockKey (key : Octets) : Octets :=
  let short := if key.length ≤ blockLength then key else Sha256.hash key
  short ++ List.replicate (blockLength - short.length) 0

/-- The code of a message under a key: thirty-two octets. -/
def code (key message : Octets) : Octets :=
  let block := blockKey key
  let inner := Sha256.hash (block.map (· ^^^ 0x36) ++ message)
  Sha256.hash (block.map (· ^^^ 0x5c) ++ inner)

end Hmac

end Carpool
