import RecordLayer.Hash.Basic

/-!
# The SHA-2 family

The construction that SHA-256, SHA-384 and SHA-512 share (FIPS 180-4).  A
`Variant` holds what sets one apart: the word, its four mixing functions and
its round constants.  `Variant.digest` pads the message, cuts it into blocks
of sixteen words, and folds `Variant.compress` over the blocks.
-/

namespace RecordLayer.Hash.Sha2

/-- The eight words that are carried from block to block. -/
structure Chain (ω : Type) where
  a : ω
  b : ω
  c : ω
  d : ω
  e : ω
  f : ω
  g : ω
  h : ω

/-- The words of a chain in order. -/
def Chain.words {ω : Type} (s : Chain ω) : List ω :=
  [s.a, s.b, s.c, s.d, s.e, s.f, s.g, s.h]

/-- What sets one member of the family apart. -/
structure Variant (ω : Type) where
  /-- The number of bytes in a word. -/
  wordSize : Nat
  ofNat : Nat → ω
  toNat : ω → Nat
  bigSigma0 : ω → ω
  bigSigma1 : ω → ω
  smallSigma0 : ω → ω
  smallSigma1 : ω → ω
  /-- One constant for each round. -/
  constants : List ω

/-- Cut off `count` pieces of `size` bytes. -/
def pieces (size : Nat) : Nat → Bytes → List Bytes
  | 0, _ => []
  | count + 1, bytes => bytes.take size :: pieces size count (bytes.drop size)

namespace Variant

variable {ω : Type}

/-- The number of bytes in a block of sixteen words. -/
def blockSize (v : Variant ω) : Nat := 16 * v.wordSize

/-- A message, a one bit, zeros, and the size of the message in bits in the
last two words of a block. -/
def pad (v : Variant ω) (message : Bytes) : Bytes :=
  let zeros := v.blockSize - 1 - (message.length + 2 * v.wordSize) % v.blockSize
  message ++ 0x80 :: (List.replicate zeros 0 ++
    Bytes.bigEndian (2 * v.wordSize) (8 * message.length))

/-- The sixteen words of a block. -/
def blockWords (v : Variant ω) (block : Bytes) : List ω :=
  (pieces v.wordSize 16 block).map fun bytes => v.ofNat (Bytes.bigEndianValue bytes)

variable [Add ω] [AndOp ω] [XorOp ω] [Complement ω]

/-- The word that follows sixteen words of the schedule. -/
def nextWord (v : Variant ω) (window : List ω) : ω :=
  let word (i : Nat) := window.getD i (v.ofNat 0)
  v.smallSigma1 (word 14) + word 9 + v.smallSigma0 (word 1) + word 0

/-- The first `count` words of the schedule that starts with sixteen words. -/
def schedule (v : Variant ω) : Nat → List ω → List ω
  | 0, _ => []
  | _, [] => []
  | count + 1, w :: rest => w :: v.schedule count (rest ++ [v.nextWord (w :: rest)])

/-- One round with its constant and its word of the schedule. -/
def round (v : Variant ω) (s : Chain ω) (kw : ω × ω) : Chain ω :=
  let choice := (s.e &&& s.f) ^^^ (~~~s.e &&& s.g)
  let majority := (s.a &&& s.b) ^^^ (s.a &&& s.c) ^^^ (s.b &&& s.c)
  let t₁ := s.h + v.bigSigma1 s.e + choice + kw.1 + kw.2
  let t₂ := v.bigSigma0 s.a + majority
  { a := t₁ + t₂, b := s.a, c := s.b, d := s.c, e := s.d + t₁, f := s.e, g := s.f, h := s.g }

/-- Mix one block into the chain. -/
def compress (v : Variant ω) (s : Chain ω) (block : Bytes) : Chain ω :=
  let words := v.schedule v.constants.length (v.blockWords block)
  let t := (v.constants.zip words).foldl v.round s
  { a := s.a + t.a, b := s.b + t.b, c := s.c + t.c, d := s.d + t.d,
    e := s.e + t.e, f := s.f + t.f, g := s.g + t.g, h := s.h + t.h }

/-- The chain after a whole message. -/
def digestChain (v : Variant ω) (start : Chain ω) (message : Bytes) : Chain ω :=
  let padded := v.pad message
  (pieces v.blockSize (padded.length / v.blockSize) padded).foldl v.compress start

/-- The chain after a whole message, as bytes. -/
def digest (v : Variant ω) (start : Chain ω) (message : Bytes) : Bytes :=
  (v.digestChain start message).words.flatMap fun w => Bytes.bigEndian v.wordSize (v.toNat w)

@[simp] theorem length_digest (v : Variant ω) (start : Chain ω) (message : Bytes) :
    (v.digest start message).length = 8 * v.wordSize := by
  simp [digest, Chain.words]
  omega

end Variant

end RecordLayer.Hash.Sha2
