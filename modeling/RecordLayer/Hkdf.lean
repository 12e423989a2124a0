import RecordLayer.Field
import RecordLayer.Hash.Basic

/-!
# Key derivation

HKDF (RFC 5869) over any hash function, and the labelled expansion of TLS 1.3
(RFC 8446, section 7.1).

`labelInfo` packs the requested length, the label and the context; it fails
if one of them does not fit.  `expandLabel` expands over that information and
fails if more than 255 blocks of output are asked for.
-/

namespace RecordLayer.Hkdf

/-- Extract a key.  An empty salt stands for zeros. -/
def extract (hash : Hash) (salt material : Bytes) : Bytes :=
  hash.hmac (if salt.isEmpty then List.replicate hash.size 0 else salt) material

@[simp] theorem length_extract (hash : Hash) (salt material : Bytes) :
    (extract hash salt material).length = hash.size := by
  simp [extract]

/-- `count` blocks of output, the first numbered `index`; each block also
covers the one before it. -/
def blocks (hash : Hash) (secret info : Bytes) : Nat → Nat → Bytes → Bytes
  | 0, _, _ => []
  | count + 1, index, previous =>
    let block := hash.hmac secret (previous ++ info ++ [UInt8.ofNat index])
    block ++ blocks hash secret info count (index + 1) block

theorem length_blocks (hash : Hash) (secret info : Bytes) (count index : Nat)
    (previous : Bytes) :
    (blocks hash secret info count index previous).length = count * hash.size := by
  induction count generalizing index previous with
  | zero => simp [blocks]
  | succ count ih => simp [blocks, ih, Nat.add_mul, Nat.add_comm]

/-- Expand a secret to `length` bytes. -/
def expand (hash : Hash) (secret info : Bytes) (length : Nat) : Bytes :=
  let count := (length + hash.size - 1) / hash.size
  (blocks hash secret info count 1 []).take length

/-- An expansion has the length that was asked for. -/
theorem length_expand {hash : Hash} (secret info : Bytes) (length : Nat) (h : 0 < hash.size) :
    (expand hash secret info length).length = length := by
  rw [expand, List.length_take, length_blocks]
  have whole := Nat.div_add_mod (length + hash.size - 1) hash.size
  have part := Nat.mod_lt (length + hash.size - 1) h
  rw [Nat.mul_comm ((length + hash.size - 1) / hash.size)]
  generalize hash.size * ((length + hash.size - 1) / hash.size) = total at *
  omega

/-- What every label starts with. -/
def labelStart : Bytes := [0x74, 0x6c, 0x73, 0x31, 0x33, 0x20]

/-- The information of a labelled expansion. -/
def labelInfo (length : Int) (label context : Bytes) : Result Bytes := do
  let size ← Bytes.field 2 length
  let label ← Bytes.vector 1 (labelStart ++ label)
  let context ← Bytes.vector 1 context
  return size ++ (label ++ context)

/-- The most output that an expansion gives. -/
def maxOutput (hash : Hash) : Nat := 255 * hash.size

/-- Expand a secret under a label and a context. -/
def expandLabel (hash : Hash) (secret label context : Bytes) (length : Int) : Result Bytes := do
  let info ← labelInfo length label context
  if maxOutput hash < length.toNat then
    throw (.outputTooLong (maxOutput hash))
  return expand hash secret info length.toNat

end RecordLayer.Hkdf
