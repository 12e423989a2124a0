import Mathlib.Tactic.Common
import RecordLayer.Record

/-!
# Records as bytes

The bytes of a record, written out field by field, and the front of a byte
string, which is where a reader of records looks.

* `Record.encode_eq_ok_iff`: a record is written exactly when its numbers fit
  their fields, and then as `Record.bytes`.
* `Front.of_bytes_append`: a record in front of any bytes is found whole,
  with its header, its body and exactly those bytes after it.
* `Front.eq_bytes_append_of_whole`: whatever is found whole is a record, with
  any split of its body into a secret and data.

Nothing here depends on how bytes arrive.
-/

namespace RecordLayer

/-! ## Writing -/

namespace Record

/-- The secret and the plaintext, as they follow the header. -/
def body (record : Record) : Bytes := record.secret ++ record.data

/-- The bytes of a record whose numbers fit their fields. -/
def bytes (record : Record) : Bytes :=
  Bytes.bigEndian 1 record.tag.toNat ++ (Bytes.bigEndian 1 record.level.toNat ++
    (Bytes.bigEndian 2 record.suite.toNat ++ (Bytes.bigEndian 4 record.bodySize ++ record.body)))

/-- Every number of a record fits its field. -/
structure Fits (record : Record) : Prop where
  tag : 0 ≤ record.tag ∧ record.tag < 256
  level : 0 ≤ record.level ∧ record.level < 256
  suite : 0 ≤ record.suite ∧ record.suite < 65536
  size : record.bodySize < 4294967296

theorem length_body (record : Record) : record.body.length = record.bodySize := by
  simp [body, bodySize]

theorem length_bytes (record : Record) : record.bytes.length = 8 + record.bodySize := by
  simp only [bytes, List.length_append, Bytes.length_bigEndian, length_body]
  omega

/-- A record is written exactly when its numbers fit their fields. -/
theorem encode_eq_ok_iff {record : Record} {bytes : Bytes} :
    record.encode = .ok bytes ↔ record.Fits ∧ bytes = record.bytes := by
  constructor
  · intro h
    rw [encode] at h
    by_cases hsuite : 0 ≤ record.suite ∧ record.suite ≤ maxSuite
    case neg => rw [if_pos hsuite] at h; cases h
    by_cases hsize : maxRecordLength < record.bodySize
    case pos => rw [if_neg (not_not_intro hsuite), if_pos hsize] at h; cases h
    rw [if_neg (not_not_intro hsuite), if_neg hsize] at h
    simp only [maxSuite] at hsuite
    simp only [maxRecordLength] at hsize
    have hsize' : record.bodySize < 4294967296 := by omega
    cases htag : Bytes.field 1 record.tag with
    | error e => rw [htag] at h; cases h
    | ok tag =>
    cases hlevel : Bytes.field 1 record.level with
    | error e => rw [htag, hlevel] at h; cases h
    | ok level =>
    cases hsuite' : Bytes.field 2 record.suite with
    | error e => rw [htag, hlevel, hsuite'] at h; cases h
    | ok suite =>
    rw [htag, hlevel, hsuite', Bytes.field_of_lt 4 hsize'] at h
    obtain ⟨htagFits, rfl⟩ := Bytes.field_eq_ok_iff.1 htag
    obtain ⟨hlevelFits, rfl⟩ := Bytes.field_eq_ok_iff.1 hlevel
    obtain ⟨-, rfl⟩ := Bytes.field_eq_ok_iff.1 hsuite'
    exact ⟨⟨htagFits, hlevelFits, by omega, hsize'⟩, (Except.ok.inj h).symm⟩
  · rintro ⟨fits, rfl⟩
    have htag : Bytes.field 1 record.tag = _ := Bytes.field_eq_ok_iff.2 ⟨fits.tag, rfl⟩
    have hlevel : Bytes.field 1 record.level = _ := Bytes.field_eq_ok_iff.2 ⟨fits.level, rfl⟩
    have hsuite : Bytes.field 2 record.suite = _ := Bytes.field_eq_ok_iff.2 ⟨fits.suite, rfl⟩
    have hsuiteRange : 0 ≤ record.suite ∧ record.suite ≤ maxSuite := by
      have := fits.suite
      simp only [maxSuite]
      omega
    have hsizeRange : ¬maxRecordLength < record.bodySize := by
      have := fits.size
      simp only [maxRecordLength]
      omega
    rw [encode, if_neg (not_not_intro hsuiteRange), if_neg hsizeRange, htag, hlevel, hsuite,
      Bytes.field_of_lt 4 fits.size]
    rfl

theorem Fits.encode {record : Record} (fits : record.Fits) : record.encode = .ok record.bytes :=
  encode_eq_ok_iff.2 ⟨fits, rfl⟩

end Record

/-! ## Fronts -/

/-- What stands at the front of a byte string. -/
inductive Front where
  /-- Fewer bytes than a header has. -/
  | noHeader
  /-- A header, and fewer bytes after it than it announces. -/
  | noBody (header : Header)
  /-- A whole record, and the bytes after it. -/
  | whole (header : Header) (body rest : Bytes)
deriving DecidableEq, Repr

namespace Front

/-- What stands at the front of a byte string.  The header is the first eight
bytes, and the length in it says how many of the bytes after it are the body. -/
def of : Bytes → Front
  | tag :: level :: s₁ :: s₂ :: n₁ :: n₂ :: n₃ :: n₄ :: after =>
    let size := Bytes.bigEndianValue [n₁, n₂, n₃, n₄]
    let header : Header :=
      { tag := tag.toNat, level := level.toNat
        suite := Bytes.bigEndianValue [s₁, s₂], length := size }
    if size ≤ after.length then .whole header (after.take size) (after.drop size)
    else .noBody header
  | _ => .noHeader

theorem of_eq_noHeader {bytes : Bytes} (h : bytes.length < 8) : of bytes = .noHeader := by
  unfold of
  split
  next => simp at h; omega
  next => rfl

/-- Eight bytes and what follows them, by the header that the eight make up. -/
theorem of_append {eight after : Bytes} {header : Header} (h : Header.decode eight = .ok header) :
    of (eight ++ after) =
      if header.length ≤ after.length then
        .whole header (after.take header.length.toNat) (after.drop header.length.toNat)
      else .noBody header := by
  unfold Header.decode at h
  split at h
  next tag level s₁ s₂ n₁ n₂ n₃ n₄ =>
    obtain rfl := Except.ok.inj h
    simp only [of, List.cons_append, List.nil_append, Int.ofNat_le, Int.toNat_natCast]
  next => cases h

/-- Eight bytes always make up a header, whose length is not negative. -/
theorem exists_header {eight : Bytes} (h : eight.length = 8) :
    ∃ header, Header.decode eight = .ok header ∧ 0 ≤ header.length := by
  match eight, h with
  | [tag, level, s₁, s₂, n₁, n₂, n₃, n₄], _ => exact ⟨_, rfl, Int.natCast_nonneg _⟩

/-- A whole record takes up bytes, and the rest is what comes after them. -/
theorem length_rest_lt_of_whole {bytes body rest : Bytes} {header : Header}
    (h : of bytes = .whole header body rest) : rest.length < bytes.length := by
  unfold of at h
  split at h
  next =>
    dsimp only at h
    split at h
    next =>
      obtain ⟨-, -, rfl⟩ := Front.whole.inj h
      simp only [List.length_drop, List.length_cons]
      omega
    next => cases h
  next => cases h

/-- A record in front of other bytes is found whole. -/
theorem of_bytes_append {record : Record} (fits : record.Fits) (rest : Bytes) :
    of (record.bytes ++ rest) = .whole record.header record.body rest := by
  have htag : record.tag.toNat % 256 = record.tag.toNat := by have := fits.tag; omega
  have hlevel : record.level.toNat % 256 = record.level.toNat := by have := fits.level; omega
  have hsuite := Bytes.bigEndianValue_bigEndian 2 record.suite.toNat
  rw [Bytes.capacity_two, Nat.mod_eq_of_lt (by have := fits.suite; omega)] at hsuite
  have hsize := Bytes.bigEndianValue_bigEndian 4 record.bodySize
  rw [Bytes.capacity_four, Nat.mod_eq_of_lt fits.size] at hsize
  have htag' := fits.tag
  have hlevel' := fits.level
  have hsuite' := fits.suite
  simp only [Bytes.bigEndian] at hsuite hsize
  simp only [Record.bytes, Bytes.bigEndian, List.cons_append, List.nil_append, of, hsuite, hsize,
    List.length_append, Record.length_body]
  rw [if_pos (Nat.le_add_right _ _), ← record.length_body, List.take_left, List.drop_left]
  congr 1
  simp only [Record.header, Header.mk.injEq, UInt8.toNat_ofNat', Bytes.capacity_zero, Nat.div_one,
    htag, hlevel, record.length_body, and_true]
  omega

/-- A whole record is the bytes of a record, however its body is split. -/
theorem eq_bytes_append_of_whole {bytes body rest secret data : Bytes} {header : Header}
    (h : of bytes = .whole header body rest) (hbody : body = secret ++ data) :
    let record : Record :=
      { tag := header.tag, level := header.level, suite := header.suite, secret, data }
    record.Fits ∧ record.header = header ∧ bytes = record.bytes ++ rest := by
  unfold of at h
  split at h
  next tag level s₁ s₂ n₁ n₂ n₃ n₄ after =>
    dsimp only at h
    split at h
    next hsize =>
      obtain ⟨rfl, hbody', rfl⟩ := Front.whole.inj h
      have hlength : secret.length + data.length = Bytes.bigEndianValue [n₁, n₂, n₃, n₄] := by
        rw [← List.length_append, ← hbody, ← hbody', List.length_take, Nat.min_eq_left hsize]
      have hs := Nat.lt_of_lt_of_eq (Bytes.bigEndianValue_lt [s₁, s₂]) Bytes.capacity_two
      have hn := Nat.lt_of_lt_of_eq (Bytes.bigEndianValue_lt [n₁, n₂, n₃, n₄]) Bytes.capacity_four
      have ht := tag.toNat_lt
      have hl := level.toNat_lt
      refine ⟨⟨by simp; omega, by simp; omega, ?_, ?_⟩, ?_, ?_⟩
      · dsimp only
        omega
      · simp only [Record.bodySize]
        omega
      · simp only [Record.header, Record.bodySize, hlength]
      · have hs' := Bytes.bigEndian_bigEndianValue [s₁, s₂]
        have hn' := Bytes.bigEndian_bigEndianValue [n₁, n₂, n₃, n₄]
        simp only [List.length_cons, List.length_nil] at hs' hn'
        simp only [Record.bytes, Record.bodySize, hlength, Int.toNat_natCast, hs', hn',
          Record.body, ← hbody, ← hbody', List.append_assoc, List.take_append_drop]
        simp [Bytes.bigEndian]
    next => cases h
  next => cases h

end Front

end RecordLayer
