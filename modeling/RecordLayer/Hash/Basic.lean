import RecordLayer.Bytes

/-!
# Hash functions

A hash function with the sizes that the constructions over it need.  The
size of its output is part of the type, so that every construction over it
has a fixed output size as well.

`Hash.hmac` is the keyed hash of RFC 2104 over any hash function.
-/

namespace RecordLayer

/-- A hash function on byte strings. -/
structure Hash where
  name : String
  /-- The number of bytes in a digest. -/
  size : Nat
  /-- The number of bytes that are taken in at once. -/
  blockSize : Nat
  digest : Bytes → Bytes
  length_digest : ∀ message, (digest message).length = size

attribute [simp] Hash.length_digest

/-! ## The keyed hash -/

namespace Hash

/-- A key of exactly one block: a longer key is hashed first, and zeros fill
the rest. -/
def blockKey (hash : Hash) (key : Bytes) : Bytes :=
  let short := if hash.blockSize < key.length then hash.digest key else key
  short ++ List.replicate (hash.blockSize - short.length) 0

/-- The keyed hash of a message. -/
def hmac (hash : Hash) (key message : Bytes) : Bytes :=
  let block := hash.blockKey key
  let inner := hash.digest (block.map (· ^^^ 0x36) ++ message)
  hash.digest (block.map (· ^^^ 0x5c) ++ inner)

@[simp] theorem length_hmac (hash : Hash) (key message : Bytes) :
    (hash.hmac key message).length = hash.size := by
  simp [hmac]

end Hash

end RecordLayer
