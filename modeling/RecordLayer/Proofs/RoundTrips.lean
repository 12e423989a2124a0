import Mathlib.Tactic.Common
import RecordLayer.Proofs.Queue

/-!
# Records there and back

A reader of records that knows how long each secret is takes records off the
front of a byte string one by one: `Record.takeOne` reads a header, cuts off
the body that it announces, and cuts the body into the secret and the data.

* `Record.takeAll_stream`: from records and any bytes after them it takes
  exactly those records, and leaves exactly those bytes.
* `Record.encode_cut`: bytes that are one record are written again, wherever
  their body is cut.
* `Record.encode_eq_error_iff`: which numbers keep a record from being written,
  and which of them is reported.

`Record.framing_is_faithful` puts the three together.
-/

namespace RecordLayer

/-- A count that is not negative is counted from the start. -/
theorem Bytes.cut_natCast (bytes : Bytes) (count : Nat) :
    bytes.cut count = (bytes.take count, bytes.drop count) := by
  rw [cut, position, if_pos (Int.natCast_nonneg count), Int.toNat_natCast, List.splitAt_eq]

namespace Record

/-! ## Taking records off the front -/

/-- Take the record in front, with a secret of a known size, and leave the
bytes after it. -/
def takeOne (secretSize : Nat) (bytes : Bytes) : Result (Record × Bytes) := do
  let header ← Header.decode (bytes.take Header.size)
  let (body, rest) := (bytes.drop Header.size).splitAt header.length.toNat
  let (secret, data) := Bytes.cut body secretSize
  return ({ tag := header.tag, level := header.level, suite := header.suite, secret, data }, rest)

/-- Take as many records as there are sizes of secrets. -/
def takeAll : List Nat → Bytes → Result (List Record × Bytes)
  | [], bytes => .ok ([], bytes)
  | size :: sizes, bytes => do
    let (record, rest) ← takeOne size bytes
    let (records, rest) ← takeAll sizes rest
    return (record :: records, rest)

/-- A whole record in front is taken, with its body cut after the secret. -/
theorem takeOne_of_whole {bytes body rest : Bytes} {header : Header}
    (h : Front.of bytes = .whole header body rest) (secretSize : Nat) :
    takeOne secretSize bytes =
      .ok ({ tag := header.tag, level := header.level, suite := header.suite,
             secret := body.take secretSize, data := body.drop secretSize }, rest) := by
  have hlong : ¬bytes.length < 8 := by
    intro hshort
    rw [Front.of_eq_noHeader hshort] at h
    cases h
  have height : (bytes.take 8).length = 8 := by
    rw [List.length_take]
    omega
  obtain ⟨header', hdecode, -⟩ := Front.exists_header height
  have hfront := @Front.of_append _ (bytes.drop 8) _ hdecode
  rw [List.take_append_drop, h] at hfront
  split at hfront
  next =>
    obtain ⟨rfl, rfl, rfl⟩ := Front.whole.inj hfront
    rw [takeOne, show Header.size = 8 from rfl, hdecode]
    simp only [List.splitAt_eq, Bytes.cut_natCast]
    rfl
  next => cases hfront

/-- A record that was written is taken back as it was. -/
theorem takeOne_bytes_append {record : Record} (fits : record.Fits) (rest : Bytes) :
    takeOne record.secret.length (record.bytes ++ rest) = .ok (record, rest) := by
  rw [takeOne_of_whole (Front.of_bytes_append fits rest), body, List.take_left, List.drop_left]
  rfl

/-- Records that were written are taken back in order, and nothing else is. -/
theorem takeAll_stream {records : List Record} (fits : ∀ record ∈ records, record.Fits)
    (tail : Bytes) :
    takeAll (records.map (·.secret.length)) (stream records ++ tail) = .ok (records, tail) := by
  induction records with
  | nil => rfl
  | cons record records ih =>
    have hone := takeOne_bytes_append (fits record List.mem_cons_self) (stream records ++ tail)
    have hothers := ih fun r hr => fits r (List.mem_cons_of_mem _ hr)
    rw [List.map_cons, takeAll, stream_cons, List.append_assoc, hone]
    show (do let (others, rest) ← takeAll _ (stream records ++ tail); return (record :: others, rest)) = _
    rw [hothers]
    rfl

/-! ## Writing a record again -/

/-- Bytes that are one record are written again from their header and the two
parts of their body, wherever it is cut. -/
theorem encode_cut {bytes : Bytes} {header : Header}
    (hdecode : Header.decode (bytes.take Header.size) = .ok header) (hlong : Header.size ≤ bytes.length)
    (hlength : header.length = bytes.length - Header.size) (count : Nat) :
    encode { tag := header.tag, level := header.level, suite := header.suite,
             secret := (Bytes.cut (bytes.drop Header.size) count).1,
             data := (Bytes.cut (bytes.drop Header.size) count).2 } = .ok bytes := by
  have hbody : (bytes.drop Header.size).length = header.length.toNat := by
    rw [List.length_drop, hlength]
    omega
  have hfront := @Front.of_append _ (bytes.drop Header.size) _ hdecode
  rw [List.take_append_drop, if_pos (by omega), ← hbody, List.take_length, List.drop_length] at hfront
  rw [Bytes.cut_natCast]
  have hcut := (List.take_append_drop count (bytes.drop Header.size)).symm
  obtain ⟨fits, -, hbytes⟩ := Front.eq_bytes_append_of_whole hfront hcut
  rw [List.append_nil] at hbytes
  exact encode_eq_ok_iff.2 ⟨fits, hbytes⟩

/-! ## Numbers that do not fit -/

/-- A suite out of range is reported before anything else. -/
theorem encode_of_suite {record : Record} (h : ¬(0 ≤ record.suite ∧ record.suite ≤ maxSuite)) :
    record.encode = .error (.suiteOutOfRange record.suite) := by
  rw [encode, if_pos h]
  rfl

/-- A tag or a level that does not fit its byte is reported once the suite and the size are in
range. -/
theorem encode_of_field {record : Record} (hsuite : 0 ≤ record.suite ∧ record.suite ≤ maxSuite)
    (hsize : record.bodySize ≤ maxRecordLength)
    (h : ¬((0 ≤ record.tag ∧ record.tag ≤ 255) ∧ 0 ≤ record.level ∧ record.level ≤ 255)) :
    record.encode = .error .badField := by
  have hone : Bytes.capacity 1 = 256 := Bytes.capacity_one
  rw [encode, if_neg (not_not_intro hsuite), if_neg (Nat.not_lt.2 hsize)]
  by_cases htag : 0 ≤ record.tag ∧ record.tag < Bytes.capacity 1
  case neg =>
    rw [Bytes.field, if_neg htag]
    rfl
  have hlevel : ¬(0 ≤ record.level ∧ record.level < Bytes.capacity 1) := by omega
  simp only [Bytes.field, if_pos htag, if_neg hlevel]
  rfl

/-- A record of a size that fits is not written exactly if its suite is out of range, or else if
its tag or its level is. -/
theorem encode_eq_error_iff {record : Record} (hsize : record.bodySize ≤ maxRecordLength) (e : Error) :
    record.encode = .error e ↔
      (¬(0 ≤ record.suite ∧ record.suite ≤ maxSuite) ∧ e = .suiteOutOfRange record.suite) ∨
      ((0 ≤ record.suite ∧ record.suite ≤ maxSuite) ∧
        ¬((0 ≤ record.tag ∧ record.tag ≤ 255) ∧ 0 ≤ record.level ∧ record.level ≤ 255) ∧
        e = .badField) := by
  by_cases hsuite : 0 ≤ record.suite ∧ record.suite ≤ maxSuite
  case neg =>
    rw [encode_of_suite hsuite]
    simp [hsuite, eq_comm]
  by_cases hfields : (0 ≤ record.tag ∧ record.tag ≤ 255) ∧ 0 ≤ record.level ∧ record.level ≤ 255
  case neg =>
    rw [encode_of_field hsuite hsize hfields]
    simp only [hsuite, hfields, not_true_eq_false, not_false_eq_true, and_self, false_and, true_and,
      false_or, Except.error.injEq, eq_comm]
  have fits : record.Fits := by
    simp only [maxSuite] at hsuite
    simp only [maxRecordLength] at hsize
    exact ⟨by omega, by omega, by omega, by omega⟩
  rw [fits.encode]
  simp only [hsuite, hfields, not_true_eq_false, and_self, false_and, and_false, or_self, reduceCtorEq]

/-! ## There and back -/

/-- Records are read back as they were written, from any bytes that start with them; bytes that are
one record are written again as they were read, wherever their body is cut; and nothing but a number
out of its range keeps a record from being written. -/
theorem framing_is_faithful :
    (∀ (records : List Record) (tail : Bytes), (∀ record ∈ records, record.Fits) →
      ∃ frames, records.mapM encode = .ok frames ∧
        takeAll (records.map (·.secret.length)) (frames.flatten ++ tail) = .ok (records, tail)) ∧
    (∀ bytes : Bytes, Header.size ≤ bytes.length →
      ∃ header, Header.decode (bytes.take Header.size) = .ok header ∧
        (header.length = bytes.length - Header.size →
          ∀ count : Nat, count ≤ (bytes.drop Header.size).length →
            let (secret, data) := Bytes.cut (bytes.drop Header.size) count
            encode { tag := header.tag, level := header.level, suite := header.suite,
                     secret, data } = .ok bytes)) ∧
    (∀ record : Record, record.bodySize ≤ maxRecordLength → ∀ e,
      record.encode = .error e ↔
        (¬(0 ≤ record.suite ∧ record.suite ≤ maxSuite) ∧ e = .suiteOutOfRange record.suite) ∨
        ((0 ≤ record.suite ∧ record.suite ≤ maxSuite) ∧
          ¬((0 ≤ record.tag ∧ record.tag ≤ 255) ∧ 0 ≤ record.level ∧ record.level ≤ 255) ∧
          e = .badField)) := by
  refine ⟨?_, ?_, fun record hsize e => encode_eq_error_iff hsize e⟩
  · intro records tail fits
    obtain ⟨frames, hframes, hstream⟩ := mapM_encode fits
    refine ⟨frames, hframes, ?_⟩
    rw [← hstream]
    exact takeAll_stream fits tail
  · intro bytes hlong
    have height : (bytes.take Header.size).length = 8 := by
      rw [List.length_take]
      exact Nat.min_eq_left hlong
    obtain ⟨header, hdecode, -⟩ := Front.exists_header height
    exact ⟨header, hdecode, fun hlength count _ => encode_cut hdecode hlong hlength count⟩

/-- Two records, of which the first has no secret and a body that looks like a header, in front of
three bytes; the record in front cut in the middle of its body; and a record whose tag and level are
both out of range. -/
theorem framing_is_faithful_of_two_records :
    let first : Record :=
      { tag := 76, level := 1, suite := 0x1301, secret := [], data := [72, 0, 0, 0, 0, 0, 0, 0] }
    let second : Record := { tag := 0, level := 255, suite := 65535, secret := [7, 8], data := [] }
    let frame : Bytes := [76, 1, 0x13, 0x01, 0, 0, 0, 8, 72, 0, 0, 0, 0, 0, 0, 0]
    (first.Fits ∧ second.Fits ∧ ∃ frames, [first, second].mapM encode = .ok frames ∧
      takeAll [0, 2] (frames.flatten ++ [9, 9, 9]) = .ok ([first, second], [9, 9, 9])) ∧
    (8 ≤ frame.length ∧ encode { first with secret := [72, 0, 0], data := [0, 0, 0, 0, 0] } =
      .ok frame) ∧
    ({ first with tag := 256, level := -1 } : Record).encode = .error .badField := by
  intro first second frame
  have hfirst : first.Fits := ⟨by decide, by decide, by decide, by decide⟩
  have hsecond : second.Fits := ⟨by decide, by decide, by decide, by decide⟩
  obtain ⟨hback, hagain, herror⟩ := framing_is_faithful
  refine ⟨⟨hfirst, hsecond, ?_⟩, ⟨by decide, ?_⟩, ?_⟩
  · exact hback [first, second] [9, 9, 9] (by simp [hfirst, hsecond])
  · obtain ⟨header, hdecode, hencode⟩ := hagain frame (by decide)
    obtain rfl := Except.ok.inj hdecode
    exact hencode (by decide) 3 (by decide)
  · have hsize : ({ first with tag := 256, level := -1 } : Record).bodySize ≤ maxRecordLength :=
      Nat.le_of_lt_succ hfirst.size
    exact (herror _ hsize .badField).2 (Or.inr ⟨⟨by decide, by decide⟩, by decide, rfl⟩)

end Record

end RecordLayer
