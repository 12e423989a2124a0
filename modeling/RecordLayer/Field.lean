import RecordLayer.Error

/-!
# Fields

Numbers and byte strings in fields of a fixed form.  `field` refuses a number
that does not fit; `vector` puts the length of a byte string in front of it;
`vector24` does the same with three bytes, of which only the low 24 bits of
the length are kept, and `packed24` refuses a length that needs more than four
bytes.
-/

namespace RecordLayer.Bytes

/-- A number in a field of `width` bytes. -/
def field (width : Nat) (n : Int) : Result Bytes :=
  if 0 ≤ n ∧ n < capacity width then .ok (bigEndian width n.toNat) else .error .badField

/-- A byte string behind its length in a field of `width` bytes. -/
def vector (width : Nat) (data : Bytes) : Result Bytes := do
  let length ← field width data.length
  return length ++ data

/-- A byte string behind the low 24 bits of its length. -/
def vector24 (data : Bytes) : Bytes :=
  bigEndian 3 data.length ++ data

/-- A byte string behind the last three bytes of its length, which has to fit
in four. -/
def packed24 (data : Bytes) : Result Bytes := do
  let length ← field 4 data.length
  return length.drop 1 ++ data

/-- The two-byte number in front. -/
def word (bytes : Bytes) : Result Nat :=
  match word? bytes with
  | some n => .ok n
  | none => .error .badField

theorem field_of_lt (width : Nat) {n : Nat} (h : n < capacity width) :
    field width n = .ok (bigEndian width n) := by
  rw [field, if_pos ⟨Int.natCast_nonneg n, Int.ofNat_lt.2 h⟩, Int.toNat_natCast]

theorem field_eq_ok_iff {width : Nat} {n : Int} {bytes : Bytes} :
    field width n = .ok bytes ↔
      (0 ≤ n ∧ n < capacity width) ∧ bytes = bigEndian width n.toNat := by
  unfold field
  split
  next h => simp [h, eq_comm]
  next h => simp [h]

theorem vector_of_lt (width : Nat) {data : Bytes} (h : data.length < capacity width) :
    vector width data = .ok (bigEndian width data.length ++ data) := by
  rw [vector, field_of_lt width h]
  rfl

theorem vector_eq_ok_iff {width : Nat} {data bytes : Bytes} :
    vector width data = .ok bytes ↔
      data.length < capacity width ∧ bytes = bigEndian width data.length ++ data := by
  constructor
  · intro h
    rw [vector] at h
    cases hfield : field width data.length with
    | error e => rw [hfield] at h; cases h
    | ok length =>
      rw [hfield] at h
      obtain ⟨⟨-, hlt⟩, rfl⟩ := field_eq_ok_iff.1 hfield
      exact ⟨Int.ofNat_lt.1 hlt, (Except.ok.inj h).symm⟩
  · rintro ⟨h, rfl⟩
    exact vector_of_lt width h

theorem length_vector24 (data : Bytes) : (vector24 data).length = data.length + 3 := by
  rw [vector24, List.length_append, length_bigEndian]
  omega

theorem packed24_of_lt {data : Bytes} (h : data.length < capacity 4) :
    packed24 data = .ok (vector24 data) := by
  rw [packed24, field_of_lt 4 h]
  rfl

theorem packed24_of_le {data : Bytes} (h : capacity 4 ≤ data.length) :
    packed24 data = .error .badField := by
  rw [packed24, field, if_neg (fun hfits => Nat.not_lt.2 h (Int.ofNat_lt.1 hfits.2))]
  rfl

end RecordLayer.Bytes
