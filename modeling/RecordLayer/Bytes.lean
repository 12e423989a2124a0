/-!
# Byte strings

A byte string is a list of bytes.  Every multi-byte number of the record
layer and of the handshake is written most significant byte first:
`bigEndian` writes the low bytes of a number, `bigEndianValue` reads a byte
string back, and `bigEndianValue_bigEndian` and `bigEndian_bigEndianValue`
say that the two undo each other.

`hex` is the lower-case hexadecimal text of a byte string.
-/

namespace RecordLayer

/-- A byte string. -/
abbrev Bytes := List UInt8

namespace Bytes

/-! ## Numbers in bytes -/

/-- How many numbers can be written in `width` bytes. -/
def capacity : Nat → Nat
  | 0 => 1
  | width + 1 => capacity width * 256

@[simp] theorem capacity_zero : capacity 0 = 1 := rfl

theorem capacity_one : capacity 1 = 256 := by decide

theorem capacity_two : capacity 2 = 65536 := by decide

theorem capacity_three : capacity 3 = 16777216 := by decide

theorem capacity_four : capacity 4 = 4294967296 := by decide

theorem capacity_pos (width : Nat) : 0 < capacity width := by
  induction width with
  | zero => decide
  | succ width ih => exact Nat.mul_pos ih (by decide)

/-- The low `width` bytes of a number, most significant byte first. -/
def bigEndian : Nat → Nat → Bytes
  | 0, _ => []
  | width + 1, n => UInt8.ofNat (n / capacity width) :: bigEndian width n

/-- Read on from the number `n`: each further byte is one more base-256 digit. -/
def bigEndianFrom (n : Nat) (bytes : Bytes) : Nat :=
  bytes.foldl (fun acc b => 256 * acc + b.toNat) n

/-- The number that a byte string writes, most significant byte first. -/
def bigEndianValue (bytes : Bytes) : Nat :=
  bigEndianFrom 0 bytes

@[simp] theorem length_bigEndian (width n : Nat) : (bigEndian width n).length = width := by
  induction width with
  | zero => rfl
  | succ width ih => simp [bigEndian, ih]

theorem bigEndianFrom_cons (n : Nat) (b : UInt8) (bytes : Bytes) :
    bigEndianFrom n (b :: bytes) = bigEndianFrom (256 * n + b.toNat) bytes := rfl

theorem bigEndianFrom_bigEndian (acc width n : Nat) :
    bigEndianFrom acc (bigEndian width n) = acc * capacity width + n % capacity width := by
  induction width generalizing acc with
  | zero =>
    show acc = acc * 1 + n % 1
    omega
  | succ width ih =>
    rw [bigEndian, bigEndianFrom_cons, ih, UInt8.toNat_ofNat', capacity, Nat.mod_mul]
    show (256 * acc + n / capacity width % 256) * capacity width + _ = _
    generalize n / capacity width % 256 = digit
    generalize capacity width = unit
    rw [Nat.add_mul, Nat.mul_comm unit digit, Nat.mul_comm unit 256, ← Nat.mul_assoc,
      Nat.mul_comm acc 256]
    omega

/-- Reading what was written gives the number back, less what did not fit. -/
theorem bigEndianValue_bigEndian (width n : Nat) :
    bigEndianValue (bigEndian width n) = n % capacity width := by
  rw [bigEndianValue, bigEndianFrom_bigEndian, Nat.zero_mul, Nat.zero_add]

/-- The digits read so far stand above those still to come. -/
theorem bigEndianFrom_eq (n : Nat) (bytes : Bytes) :
    bigEndianFrom n bytes = n * capacity bytes.length + bigEndianValue bytes := by
  induction bytes generalizing n with
  | nil =>
    show n = n * 1 + 0
    omega
  | cons b bytes ih =>
    rw [bigEndianValue, bigEndianFrom_cons, bigEndianFrom_cons, ih, ih (256 * 0 + b.toNat),
      List.length_cons, capacity, Nat.add_mul, Nat.mul_comm 256 n, Nat.mul_assoc n,
      Nat.mul_comm 256, Nat.mul_zero, Nat.zero_add, Nat.add_assoc]

theorem bigEndianValue_lt (bytes : Bytes) : bigEndianValue bytes < capacity bytes.length := by
  induction bytes with
  | nil => exact Nat.zero_lt_one
  | cons b bytes ih =>
    rw [bigEndianValue, bigEndianFrom_cons, bigEndianFrom_eq, List.length_cons, capacity,
      Nat.mul_zero, Nat.zero_add]
    have hb : (b.toNat + 1) * capacity bytes.length ≤ 256 * capacity bytes.length :=
      Nat.mul_le_mul_right _ b.toNat_lt
    rw [Nat.add_mul] at hb
    omega

/-- Writing what was read, in as many bytes, gives the bytes back. -/
theorem bigEndian_bigEndianFrom (n : Nat) (bytes : Bytes) :
    bigEndian bytes.length (bigEndianFrom n bytes) = bytes := by
  induction bytes generalizing n with
  | nil => rfl
  | cons b bytes ih =>
    rw [bigEndianFrom_cons, List.length_cons, bigEndian, ih, bigEndianFrom_eq,
      Nat.mul_comm _ (capacity bytes.length), Nat.mul_add_div (capacity_pos _),
      Nat.div_eq_of_lt (bigEndianValue_lt bytes), Nat.add_zero]
    congr 1
    apply UInt8.toNat_inj.1
    have := b.toNat_lt
    rw [UInt8.toNat_ofNat']
    omega

/-- Writing what was read gives the bytes back. -/
theorem bigEndian_bigEndianValue (bytes : Bytes) :
    bigEndian bytes.length (bigEndianValue bytes) = bytes :=
  bigEndian_bigEndianFrom 0 bytes

/-! ## Cutting -/

/-- Whether at least `n` bytes are there, found without counting the rest. -/
def hasAtLeast : Nat → Bytes → Bool
  | 0, _ => true
  | _ + 1, [] => false
  | n + 1, _ :: rest => hasAtLeast n rest

@[simp] theorem hasAtLeast_iff (n : Nat) (bytes : Bytes) :
    hasAtLeast n bytes = true ↔ n ≤ bytes.length := by
  induction n generalizing bytes with
  | zero => simp [hasAtLeast]
  | succ n ih => cases bytes <;> simp [hasAtLeast, ih]

/-- The position that a count names: from the start, or from the end if it is negative. -/
def position (length : Nat) (count : Int) : Nat :=
  if 0 ≤ count then count.toNat else length - (-count).toNat

/-- Cut a byte string in two at a count; a negative count is counted from
the end, and a count past either end cuts there. -/
def cut (bytes : Bytes) (count : Int) : Bytes × Bytes :=
  bytes.splitAt (position bytes.length count)

/-- The big-endian two-byte number in front, if there are two bytes. -/
def word? : Bytes → Option Nat
  | high :: low :: _ => some (256 * high.toNat + low.toNat)
  | _ => none

/-! ## Text -/

/-- The lower-case hexadecimal digit of a number below sixteen. -/
def hexDigit (n : Nat) : Char :=
  if n < 10 then Char.ofNat (48 + n) else Char.ofNat (87 + n)

/-- Two lower-case hexadecimal digits per byte. -/
def hex (bytes : Bytes) : String :=
  String.ofList (bytes.flatMap fun b => [hexDigit (b.toNat / 16), hexDigit (b.toNat % 16)])

end Bytes

end RecordLayer
