import Mathlib.Tactic.Common
import RecordLayer.Proofs.Conservation
import RecordLayer.Proofs.RoundTrips

/-!
# A write is whole or nothing

What a write does in any state of a pair, also with an epoch that was assigned
without a check and on a link whose ends are closed or fail.

`Connection.obstacle?` is the first thing that stands in the way of a write:
the type, the suite, the size, the level, and last the wire (`Wire.refusal?`).
If there is one, it is what the write reports, and nothing has happened
(`Connection.writeRecord_of_obstacle`).  If there is none, the bytes of one
record are behind those that were sent before, and that record is counted
(`Connection.writeRecord_of_no_obstacle`).

`Pair.write_is_whole_or_nothing` says this of the pair, and of the frame what a
reader finds in its header and in its body.
-/

namespace RecordLayer

/-! ## Types that can be sent -/

namespace RecordType

theorem sendable?_eq_some_iff {code : Code} {type : RecordType} :
    sendable? code = some type ↔
      code = .number type.code ∧ (type = .handshake ∨ type = .applicationData) := by
  constructor
  · intro h
    unfold sendable? at h
    split at h
    next n =>
      split_ifs at h with hhandshake hdata
      · obtain rfl := Option.some.inj h
        exact ⟨congrArg Code.number hhandshake, Or.inl rfl⟩
      · obtain rfl := Option.some.inj h
        exact ⟨congrArg Code.number hdata, Or.inr rfl⟩
    next => cases h
  · rintro ⟨rfl, rfl | rfl⟩ <;> rfl

theorem sendable?_eq_none_iff {code : Code} :
    sendable? code = none ↔ code ≠ .number 22 ∧ code ≠ .number 23 := by
  rw [Option.eq_none_iff_forall_ne_some]
  constructor
  · intro h
    refine ⟨fun hcode => h .handshake ?_, fun hcode => h .applicationData ?_⟩
    · exact sendable?_eq_some_iff.2 ⟨hcode, Or.inl rfl⟩
    · exact sendable?_eq_some_iff.2 ⟨hcode, Or.inr rfl⟩
  · rintro ⟨hhandshake, hdata⟩ type htype
    obtain ⟨hcode, rfl | rfl⟩ := sendable?_eq_some_iff.1 htype
    · exact hhandshake hcode
    · exact hdata hcode

/-- The tag of a type fits its byte. -/
theorem tag_fits (type : RecordType) : 0 ≤ type.tag ∧ type.tag < 256 := by
  cases type <;> decide

end RecordType

/-! ## Records that do not fit -/

/-- A size that does not fit is reported once the suite is in range. -/
theorem Record.encode_of_size {record : Record}
    (hsuite : 0 ≤ record.suite ∧ record.suite ≤ maxSuite)
    (hsize : maxRecordLength < record.bodySize) :
    record.encode = .error (.recordTooLarge record.bodySize) := by
  rw [encode, if_neg (not_not_intro hsuite), if_pos hsize]
  rfl

/-- The first eight bytes of a record are its header, and the others its body. -/
theorem Record.Fits.parts {record : Record} (fits : record.Fits) :
    Header.decode (record.bytes.take Header.size) = .ok record.header ∧
      record.bytes.drop Header.size = record.body := by
  have height : (record.bytes.take Header.size).length = 8 := by
    rw [List.length_take, record.length_bytes]
    exact Nat.min_eq_left (Nat.le_add_right _ _)
  obtain ⟨header, hdecode, -⟩ := Front.exists_header height
  have hfront := @Front.of_append _ (record.bytes.drop Header.size) _ hdecode
  have hwhole := Front.of_bytes_append fits []
  rw [List.append_nil] at hwhole
  rw [List.take_append_drop, hwhole] at hfront
  split at hfront
  next =>
    obtain ⟨hheader, hbody, hrest⟩ := Front.whole.inj hfront
    refine ⟨hheader ▸ hdecode, ?_⟩
    rw [hbody, ← List.append_nil (List.take _ _), hrest, List.take_append_drop]
  next => cases hfront

/-! ## What stands in the way -/

namespace Wire

/-- Why an end sends nothing, if it does not.  That it is closed comes before
the fault of its writes, and both before the other end. -/
def refusal? (wire : Wire) : Option StreamError :=
  if wire.outgoing.writerClosed then some .badDescriptor
  else
    match wire.port.writeFault with
    | some { after := 0, error } => some error
    | _ => if wire.outgoing.readerClosed then some .brokenPipe else none

/-- The wire with another fault for its writes. -/
def withWriteFault (wire : Wire) (fault : Option Fault) : Wire :=
  { wire with port := { wire.port with writeFault := fault } }

/-- A send goes through exactly if the wire does not refuse it, and sends
everything then.  Apart from that it only counts against the fault of the
writes. -/
theorem send_eq (wire : Wire) (bytes : Bytes) :
    ∃ fault, wire.send bytes =
      match wire.refusal? with
      | some error => (.error error, wire.withWriteFault fault)
      | none => (.ok (), (wire.withWriteFault fault).sending bytes) := by
  unfold send refusal?
  split
  · exact ⟨wire.port.writeFault, rfl⟩
  rcases hfault : wire.port.writeFault with _ | ⟨_ | count, error⟩
  · refine ⟨none, ?_⟩
    simp only [Fault.strike]
    split <;> rfl
  · refine ⟨wire.port.writeFault, ?_⟩
    simp only [Fault.strike]
    rfl
  · refine ⟨some { after := count, error }, ?_⟩
    simp only [Fault.strike]
    split <;> rfl

end Wire

namespace Connection

/-- What stands in the way of a write, if anything does: the first of a type
that cannot be sent, a suite out of range, a size and a level that do not fit,
and a wire that refuses. -/
def obstacle? (connection : Connection) (type : Code) (data : Bytes) : Option Error :=
  let epoch := connection.transport.write
  let size := epoch.secret.length + data.length
  if type ≠ .number 22 ∧ type ≠ .number 23 then some (.unsupportedType type)
  else if ¬(0 ≤ epoch.suite ∧ epoch.suite ≤ 65535) then some (.suiteOutOfRange epoch.suite)
  else if 4294967295 < size then some (.recordTooLarge size)
  else if ¬(0 ≤ epoch.level ∧ epoch.level ≤ 255) then some .badField
  else connection.wire.refusal?.map .stream

section Write

variable {connection : Connection} {type : Code} {data : Bytes}

/-- A record whose suite, size and level are in range fits. -/
theorem fits_stamp {epoch : Epoch} (sendable : RecordType)
    (hsuite : 0 ≤ epoch.suite ∧ epoch.suite ≤ 65535)
    (hsize : epoch.secret.length + data.length ≤ 4294967295)
    (hlevel : 0 ≤ epoch.level ∧ epoch.level ≤ 255) : (epoch.stamp sendable data).Fits where
  tag := sendable.tag_fits
  level := ⟨hlevel.1, Int.lt_of_le_sub_one hlevel.2⟩
  suite := ⟨hsuite.1, Int.lt_of_le_sub_one hsuite.2⟩
  size := Nat.lt_succ_of_le hsize

/-- A write of a record that fits goes the way of the wire. -/
theorem writeRecord_of_fits {sendable : RecordType}
    (htype : RecordType.sendable? type = some sendable)
    (fits : (connection.transport.write.stamp sendable data).Fits) :
    ∃ fault, writeRecord type data connection =
      match connection.wire.refusal? with
      | some error =>
        { result := .error (.stream error)
          state := { connection with wire := connection.wire.withWriteFault fault } }
      | none =>
        { result := .ok data.length
          state := connection.counted ((connection.wire.withWriteFault fault).sending
            (connection.transport.write.stamp sendable data).bytes)
          notes := [.sent (connection.transport.write.stamp sendable data)] } := by
  obtain ⟨fault, hsend⟩ := connection.wire.send_eq
    (connection.transport.write.stamp sendable data).bytes
  refine ⟨fault, ?_⟩
  rw [writeRecord_eq, htype]
  simp only [fits.encode, hsend]
  cases connection.wire.refusal? <;> rfl

/-- A write of a record that does not fit changes nothing. -/
theorem writeRecord_of_encode_error {sendable : RecordType} {cause : Error}
    (htype : RecordType.sendable? type = some sendable)
    (hencode : (connection.transport.write.stamp sendable data).encode = .error cause) :
    writeRecord type data connection = { result := .error cause, state := connection } := by
  rw [writeRecord_eq, htype]
  simp only [hencode]

/-- What stands in the way of a write is what it reports, and nothing was sent. -/
theorem writeRecord_of_obstacle {cause : Error} (h : connection.obstacle? type data = some cause) :
    ∃ fault, writeRecord type data connection =
      { result := .error cause
        state := { connection with wire := connection.wire.withWriteFault fault } } := by
  simp only [obstacle?] at h
  by_cases htype : type ≠ .number 22 ∧ type ≠ .number 23
  case pos =>
    rw [if_pos htype] at h
    obtain rfl := Option.some.inj h
    rw [writeRecord_eq, RecordType.sendable?_eq_none_iff.2 htype]
    exact ⟨connection.wire.port.writeFault, rfl⟩
  obtain ⟨sendable, hsendable⟩ :=
    Option.ne_none_iff_exists'.1 (mt RecordType.sendable?_eq_none_iff.1 htype)
  rw [if_neg htype] at h
  -- A record that does not fit leaves even the fault of the writes as it was.
  have refused : ∀ {e}, (connection.transport.write.stamp sendable data).encode = .error e →
      some e = some cause → ∃ fault, writeRecord type data connection =
        { result := .error cause
          state := { connection with wire := connection.wire.withWriteFault fault } } := by
    rintro e hencode ⟨⟩
    exact ⟨connection.wire.port.writeFault, writeRecord_of_encode_error hsendable hencode⟩
  by_cases hsuite : 0 ≤ connection.transport.write.suite ∧ connection.transport.write.suite ≤ 65535
  case neg =>
    rw [if_pos hsuite] at h
    exact refused (Record.encode_of_suite hsuite) h
  rw [if_neg (not_not_intro hsuite)] at h
  rcases Nat.lt_or_ge 4294967295 (connection.transport.write.secret.length + data.length)
    with hsize | hsize
  case inl =>
    rw [if_pos hsize] at h
    exact refused (Record.encode_of_size hsuite hsize) h
  rw [if_neg (Nat.not_lt.2 hsize)] at h
  by_cases hlevel : 0 ≤ connection.transport.write.level ∧ connection.transport.write.level ≤ 255
  case neg =>
    rw [if_pos hlevel] at h
    exact refused (Record.encode_of_field hsuite hsize fun hfields => hlevel hfields.2) h
  rw [if_neg (not_not_intro hlevel)] at h
  obtain ⟨error, hrefusal, rfl⟩ := Option.map_eq_some_iff.1 h
  obtain ⟨fault, hwrite⟩ :=
    writeRecord_of_fits hsendable (fits_stamp sendable hsuite hsize hlevel)
  rw [hrefusal] at hwrite
  exact ⟨fault, hwrite⟩

/-- A write with nothing in its way sends one record whole and counts it. -/
theorem writeRecord_of_no_obstacle (h : connection.obstacle? type data = none) :
    ∃ (fault : Option Fault) (sendable : RecordType), type = .number sendable.code ∧
      (connection.transport.write.stamp sendable data).Fits ∧
      writeRecord type data connection =
        { result := .ok data.length
          state := connection.counted ((connection.wire.withWriteFault fault).sending
            (connection.transport.write.stamp sendable data).bytes)
          notes := [.sent (connection.transport.write.stamp sendable data)] } := by
  simp only [obstacle?] at h
  split_ifs at h with htype hsuite hsize hlevel
  obtain ⟨sendable, hsendable⟩ :=
    Option.ne_none_iff_exists'.1 (mt RecordType.sendable?_eq_none_iff.1 htype)
  have fits := fits_stamp sendable hsuite (Nat.not_lt.1 hsize) hlevel
  obtain ⟨fault, hwrite⟩ := writeRecord_of_fits hsendable fits
  rw [Option.map_eq_none_iff.1 h] at hwrite
  exact ⟨fault, sendable, (RecordType.sendable?_eq_some_iff.1 hsendable).1, fits, hwrite⟩

end Write

end Connection

namespace Pair

/-- The channel that one end writes to is the one that the other reads from. -/
theorem incoming_peer (link : Link) (side : Side) :
    (link.wire side.peer).incoming = (link.wire side).outgoing := by
  cases side <;> rfl

/-- A side that does not read and has the log left alone leaves all but its own
transport and what it sends. -/
theorem rest_setConnection (pair : Pair) (side : Side) (transport : Transport)
    (fault : Option Fault) (outgoing : Channel) :
    let wire := { (pair.link.wire side).withWriteFault fault with outgoing }
    let after := pair.setConnection side { transport, log := pair.log, wire }
    after.transport side.peer = pair.transport side.peer ∧ after.log = pair.log ∧
      (after.link.wire side).incoming = (pair.link.wire side).incoming ∧
      (after.link.wire side.peer).port = (pair.link.wire side.peer).port ∧
      ∃ fault, (after.link.wire side).port =
        { (pair.link.wire side).port with writeFault := fault } := by
  cases side <;> exact ⟨rfl, rfl, rfl, rfl, fault, rfl⟩

theorem incoming_setConnection_peer (pair : Pair) (side : Side) (connection : Connection) :
    ((pair.setConnection side connection).link.wire side.peer).incoming =
      connection.wire.outgoing := by
  cases side <;> rfl

/-- A write to one side, as a write to what that side sees. -/
theorem perform_write (pair : Pair) (side : Side) (type : Code) (data : Bytes) :
    perform side (.write type data) pair =
      { result := (Connection.writeRecord type data (pair.connection side)).result.map .count
        state := pair.setConnection side
          (Connection.writeRecord type data (pair.connection side)).state
        notes := (Connection.writeRecord type data (pair.connection side)).notes } := by
  rw [perform, on, Act.focus_apply, act_write]

/-- A write to one side of any pair.

If something stands in its way, that is what it reports, and neither transport
and nothing that is under way has changed.  Otherwise one record is behind what
the other side has still to read: its header has the tag of the type, the level
and the suite of the write epoch and the size of the secret and the data, which
are its body; the transport has counted it, and the result is the size of the
data.  In both cases all else is as it was, but that the attempt may count
against a fault of the writes. -/
theorem write_is_whole_or_nothing (pair : Pair) (side : Side) (type : Code) (data : Bytes) :
    let transport := pair.transport side
    let epoch := transport.write
    let outcome := perform side (.write type data) pair
    let after := outcome.state
    (after.transport side.peer = pair.transport side.peer ∧ after.log = pair.log ∧
      (after.link.wire side).incoming = (pair.link.wire side).incoming ∧
      (after.link.wire side.peer).port = (pair.link.wire side.peer).port ∧
      ∃ fault, (after.link.wire side).port =
        { (pair.link.wire side).port with writeFault := fault }) ∧
    match (pair.connection side).obstacle? type data with
    | some cause =>
      outcome.result = .error cause ∧ outcome.notes = [] ∧ after.transport side = transport ∧
        (after.link.wire side.peer).incoming = (pair.link.wire side.peer).incoming
    | none =>
      ∃ (sendable : RecordType) (frame : Bytes), type = .number sendable.code ∧
        Header.decode (frame.take Header.size) =
          .ok { tag := sendable.tag, level := epoch.level, suite := epoch.suite
                length := epoch.secret.length + data.length } ∧
        frame.drop Header.size = epoch.secret ++ data ∧
        outcome.result = .ok (.count data.length) ∧
        outcome.notes = [.sent (epoch.stamp sendable data)] ∧
        after.transport side = { transport with sent := transport.sent + 1 } ∧
        (after.link.wire side.peer).incoming =
          { (pair.link.wire side.peer).incoming with
            queue := pair.link.unread side.peer ++ frame } := by
  have houtcome := perform_write pair side type data
  cases hobstacle : (pair.connection side).obstacle? type data with
  | some cause =>
    obtain ⟨fault, hwrite⟩ := Connection.writeRecord_of_obstacle hobstacle
    rw [hwrite] at houtcome
    dsimp only
    rw [houtcome]
    refine ⟨rest_setConnection pair side _ fault _, rfl, rfl, transport_setConnection .., ?_⟩
    rw [incoming_setConnection_peer, incoming_peer]
    rfl
  | none =>
    obtain ⟨fault, sendable, htype, fits, hwrite⟩ := Connection.writeRecord_of_no_obstacle hobstacle
    obtain ⟨hheader, hbody⟩ := fits.parts
    rw [hwrite] at houtcome
    dsimp only
    rw [houtcome]
    refine ⟨rest_setConnection pair side _ fault _, sendable, _, htype, hheader, hbody, rfl, rfl,
      transport_setConnection .., ?_⟩
    rw [incoming_setConnection_peer, Link.unread, incoming_peer]
    rfl

end Pair

end RecordLayer
