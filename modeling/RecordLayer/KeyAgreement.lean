import RecordLayer.Error

/-!
# Key agreement

A key agreement turns one's own private key and the peer's public key into a
shared secret.  Nothing but the size of public keys is fixed by that; that two
sides arrive at the same secret is a property of a particular agreement.

X25519 is Diffie-Hellman on the Montgomery curve y² = x³ + 486662 x² + x over
the integers modulo 2²⁵⁵ - 19 (RFC 7748).  Only x-coordinates are computed, as
quotients `x / z`, and numbers travel as 32 bytes, least significant first.
-/

namespace RecordLayer

/-- A key agreement on byte strings. -/
structure KeyAgreement where
  publicKey : Bytes → Bytes
  /-- The secret shared with the owner of a public key. -/
  exchange : (privateKey peerKey : Bytes) → Result Bytes
  length_publicKey : ∀ privateKey, (publicKey privateKey).length = 32

/-! ## X25519 -/

namespace X25519

/-- The size of the field. -/
def modulus : Nat := Nat.pow 2 255 - 19

/-- The number that a byte string writes, least significant byte first. -/
def littleEndianValue (bytes : Bytes) : Nat :=
  Bytes.bigEndianValue bytes.reverse

/-- A number in 32 bytes, least significant byte first. -/
def littleEndian (n : Nat) : Bytes :=
  (Bytes.bigEndian 32 n).reverse

/-- A difference modulo the size of the field. -/
def sub (a b : Nat) : Nat := (a + (modulus - b % modulus)) % modulus

/-- `base` to the power that `count` bits of `n` write, lowest bit first,
modulo the size of the field. -/
def power (n : Nat) : Nat → Nat → Nat
  | 0, _ => 1
  | count + 1, base =>
    let rest := power (n / 2) count (base * base % modulus)
    if n % 2 = 1 then base * rest % modulus else rest

/-- The inverse of a number, and zero for zero (Fermat). -/
def inverse (a : Nat) : Nat := power (modulus - 2) 255 a

/-- The x-coordinates of two multiples of a point that differ by the point. -/
structure Ladder where
  x₂ : Nat
  z₂ : Nat
  x₃ : Nat
  z₃ : Nat

/-- The pair for twice the first multiple, where `u` is the point. -/
def Ladder.double (u : Nat) (l : Ladder) : Ladder :=
  let a := l.x₂ + l.z₂
  let b := sub l.x₂ l.z₂
  let aa := a * a % modulus
  let bb := b * b % modulus
  let e := sub aa bb
  let da := sub l.x₃ l.z₃ * a % modulus
  let cb := (l.x₃ + l.z₃) * b % modulus
  let sum := da + cb
  let difference := sub da cb
  { x₂ := aa * bb % modulus
    z₂ := e * (aa + 121665 * e) % modulus
    x₃ := sum * sum % modulus
    z₃ := u * (difference * difference) % modulus }

/-- Exchange the two multiples. -/
def Ladder.swap (l : Ladder) : Ladder :=
  { x₂ := l.x₃, z₂ := l.z₃, x₃ := l.x₂, z₃ := l.z₂ }

/-- One bit of the scalar. -/
def Ladder.step (u : Nat) (l : Ladder) (bit : Bool) : Ladder :=
  if bit then (l.swap.double u).swap else l.double u

/-- The `count` low bits of a number, highest first. -/
def bits (n : Nat) : Nat → List Bool
  | 0 => []
  | count + 1 => (n / Nat.pow 2 count % 2 = 1) :: bits n count

/-- The x-coordinate of a multiple of the point with x-coordinate `u`. -/
def multiply (scalar u : Nat) : Nat :=
  let l := (bits scalar 255).foldl (Ladder.step u) { x₂ := 1, z₂ := 0, x₃ := u, z₃ := 1 }
  l.x₂ * inverse l.z₂ % modulus

/-- The scalar of a private key: a multiple of eight with its highest bit at
position 254. -/
def scalarOf (privateKey : Bytes) : Nat :=
  let n := littleEndianValue privateKey % Nat.pow 2 254
  n - n % 8 + Nat.pow 2 254

/-- The x-coordinate of a public key.  Its top bit is ignored, and a number
that is not reduced is accepted. -/
def coordinateOf (publicKey : Bytes) : Nat :=
  littleEndianValue publicKey % Nat.pow 2 255 % modulus

/-- The public key of a private key. -/
def publicKey (privateKey : Bytes) : Bytes :=
  littleEndian (multiply (scalarOf privateKey) 9)

/-- The secret shared with the owner of a public key.  A public key is 32
bytes long, and a secret of zero is refused. -/
def exchange (privateKey peerKey : Bytes) : Result Bytes :=
  if peerKey.length ≠ 32 then .error .publicKeySize
  else
    let shared := multiply (scalarOf privateKey) (coordinateOf peerKey)
    if shared = 0 then .error .sharedSecretZero else .ok (littleEndian shared)

@[simp] theorem length_publicKey (privateKey : Bytes) : (publicKey privateKey).length = 32 := by
  simp [publicKey, littleEndian]

end X25519

/-- X25519 as a key agreement. -/
def x25519 : KeyAgreement where
  publicKey := X25519.publicKey
  exchange := X25519.exchange
  length_publicKey := X25519.length_publicKey

end RecordLayer
