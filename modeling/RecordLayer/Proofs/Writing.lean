import Mathlib.Tactic.Common
import RecordLayer.Connection
import RecordLayer.Proofs.Framing

/-!
# What a write comes to

`Connection.writeRecord_eq` takes a write apart: the type is checked, the
record is packed, and its bytes are sent, in this order.  Up to the sending
nothing has changed; a send that fails leaves both channels as they were
(`Wire.outgoing_send_of_error`); one that succeeds puts the bytes behind those
that were sent before, and only then the record is counted.  So there are three
ways for a write to go (`Connection.Sends`).
-/

namespace RecordLayer

namespace Wire

/-- Both ends of the outgoing channel are open and no write fails. -/
structure Accepts (wire : Wire) : Prop where
  writerOpen : wire.outgoing.writerClosed = false
  readerOpen : wire.outgoing.readerClosed = false
  writeFault : wire.port.writeFault = none

/-- The wire with some more bytes sent. -/
def sending (wire : Wire) (bytes : Bytes) : Wire :=
  { wire with outgoing := { wire.outgoing with queue := wire.outgoing.queue ++ bytes } }

theorem send_of_accepts {wire : Wire} (accepts : wire.Accepts) (bytes : Bytes) :
    wire.send bytes = (.ok (), wire.sending bytes) := by
  have hport : { wire.port with writeFault := none } = wire.port := by
    rw [← accepts.writeFault]
  simp only [send, accepts.writerOpen, accepts.writeFault, Fault.strike, accepts.readerOpen,
    Bool.false_eq_true, if_false, hport, sending]

/-- Any write leaves the incoming channel alone. -/
theorem incoming_send (wire : Wire) (bytes : Bytes) :
    (wire.send bytes).2.incoming = wire.incoming := by
  unfold send
  split
  · rfl
  · split
    · rfl
    · dsimp only
      split <;> rfl

/-- A write that fails has written nothing. -/
theorem outgoing_send_of_error {wire wire' : Wire} {bytes : Bytes} {error : StreamError}
    (h : wire.send bytes = (.error error, wire')) : wire'.outgoing = wire.outgoing := by
  unfold send at h
  split at h
  · obtain ⟨-, rfl⟩ := Prod.mk.inj h
    rfl
  · split at h
    · obtain ⟨-, rfl⟩ := Prod.mk.inj h
      rfl
    · dsimp only at h
      split at h
      · obtain ⟨-, rfl⟩ := Prod.mk.inj h
        rfl
      · cases h

/-- A write that succeeds has written everything. -/
theorem outgoing_send_of_ok {wire wire' : Wire} {bytes : Bytes}
    (h : wire.send bytes = (.ok (), wire')) :
    wire'.outgoing = { wire.outgoing with queue := wire.outgoing.queue ++ bytes } := by
  unfold send at h
  split at h
  · cases h
  · split at h
    · cases h
    · dsimp only at h
      split at h
      · cases h
      · obtain ⟨-, rfl⟩ := Prod.mk.inj h
        rfl

/-- Writes do not change how an end reads. -/
theorem reading_port_send (wire : Wire) (bytes : Bytes) :
    (wire.send bytes).2.port.readFault = wire.port.readFault ∧
      (wire.send bytes).2.port.limit = wire.port.limit ∧
      (wire.send bytes).2.port.pieces = wire.port.pieces := by
  unfold send
  split
  · exact ⟨rfl, rfl, rfl⟩
  · split
    · exact ⟨rfl, rfl, rfl⟩
    · dsimp only
      split <;> exact ⟨rfl, rfl, rfl⟩

end Wire

namespace Connection

/-- The connection after its transport has sent one more record on a wire. -/
def counted (connection : Connection) (wire : Wire) : Connection :=
  { transport := { connection.transport with sent := connection.transport.sent + 1 }
    log := connection.log
    wire }

/-- A write, step by step. -/
theorem writeRecord_eq (type : Code) (data : Bytes) (connection : Connection) :
    writeRecord type data connection =
      match RecordType.sendable? type with
      | none => { result := .error (.unsupportedType type), state := connection }
      | some type =>
        let record := connection.transport.write.stamp type data
        match record.encode with
        | .error cause => { result := .error cause, state := connection }
        | .ok bytes =>
          match connection.wire.send bytes with
          | (.error error, wire) =>
            { result := .error (.stream error), state := { connection with wire } }
          | (.ok (), wire) =>
            { result := .ok data.length, state := connection.counted wire, notes := [.sent record] } := by
  simp only [writeRecord, Act.bind_apply, Act.get_apply, Act.ofResult_apply, RecordType.forSending]
  cases RecordType.sendable? type with
  | none => rfl
  | some type =>
    dsimp only
    cases (connection.transport.write.stamp type data).encode with
    | error cause => rfl
    | ok bytes =>
      dsimp only [sendRaw]
      rcases connection.wire.send bytes with ⟨_ | _, wire⟩
      · rfl
      · rfl

/-- Every way that a write can go.  Nothing was sent, or a whole record. -/
inductive Sends (type : Code) (data : Bytes) (connection : Connection) :
    Outcome Connection Nat → Prop where
  | refused (cause : Error) :
    Sends type data connection { result := .error cause, state := connection }
  | failed {bytes : Bytes} {error : StreamError} {wire : Wire}
      (hsend : connection.wire.send bytes = (.error error, wire)) :
    Sends type data connection
      { result := .error (.stream error), state := { connection with wire } }
  | sent {sendable : RecordType} {wire : Wire} (htype : RecordType.sendable? type = some sendable)
      (fits : (connection.transport.write.stamp sendable data).Fits)
      (hsend : connection.wire.send (connection.transport.write.stamp sendable data).bytes =
        (.ok (), wire)) :
    Sends type data connection
      { result := .ok data.length
        state := connection.counted wire
        notes := [.sent (connection.transport.write.stamp sendable data)] }

/-- A write goes in one of these ways. -/
theorem sends_writeRecord (type : Code) (data : Bytes) (connection : Connection) :
    Sends type data connection (writeRecord type data connection) := by
  rw [writeRecord_eq]
  cases htype : RecordType.sendable? type with
  | none => exact .refused _
  | some sendable =>
    dsimp only
    cases hencode : (connection.transport.write.stamp sendable data).encode with
    | error cause => exact .refused cause
    | ok bytes =>
      obtain ⟨fits, rfl⟩ := Record.encode_eq_ok_iff.1 hencode
      dsimp only
      cases hsend : connection.wire.send (connection.transport.write.stamp sendable data).bytes with
      | mk result wire =>
        cases result with
        | error error => exact .failed hsend
        | ok u => exact .sent htype fits hsend

/-- A record that fits is written to a wire that accepts it. -/
theorem writeRecord_of_accepts {connection : Connection} (accepts : connection.wire.Accepts)
    (type : RecordType) (htype : type ≠ .alert) {data : Bytes}
    (fits : (connection.transport.write.stamp type data).Fits) :
    writeRecord (.number type.code) data connection =
      { result := .ok data.length
        state := connection.counted
          (connection.wire.sending (connection.transport.write.stamp type data).bytes)
        notes := [.sent (connection.transport.write.stamp type data)] } := by
  have hsendable : RecordType.sendable? (.number type.code) = some type := by
    cases type with
    | alert => exact absurd rfl htype
    | handshake => rfl
    | applicationData => rfl
  rw [writeRecord_eq, hsendable]
  simp only [fits.encode, Wire.send_of_accepts accepts]

/-- A record that does not fit is not written, and nothing has changed. -/
theorem writeRecord_of_not_fits {connection : Connection} (type : RecordType) {data : Bytes}
    (hfits : ¬(connection.transport.write.stamp type data).Fits) :
    ∃ e, writeRecord (.number type.code) data connection =
      { result := .error e, state := connection } := by
  rw [writeRecord_eq]
  cases hsendable : RecordType.sendable? (.number type.code) with
  | none => exact ⟨_, rfl⟩
  | some type' =>
    have hsame : type' = type := by
      cases type <;> cases hsendable <;> rfl
    subst hsame
    dsimp only
    cases hencode : (connection.transport.write.stamp type' data).encode with
    | error e => exact ⟨e, rfl⟩
    | ok bytes => exact absurd (Record.encode_eq_ok_iff.1 hencode).1 hfits

/-- Whether and as which record something is written does not depend on the
wire, as long as the wire accepts it. -/
theorem writeRecord_cases (type : Code) (data : Bytes) (transport : Transport) (log : KeyLog) :
    (∃ e, ∀ wire : Wire, writeRecord type data { transport, log, wire } =
      { result := .error e, state := { transport, log, wire } }) ∨
    ∃ record : Record, record.Fits ∧ ∀ wire : Wire, wire.Accepts →
      writeRecord type data { transport, log, wire } =
        { result := .ok data.length
          state := { transport := { transport with sent := transport.sent + 1 }, log,
                     wire := wire.sending record.bytes }
          notes := [.sent record] } := by
  simp only [writeRecord_eq]
  cases RecordType.sendable? type with
  | none => exact Or.inl ⟨_, fun _ => rfl⟩
  | some type =>
    dsimp only
    cases hencode : (transport.write.stamp type data).encode with
    | error e => exact Or.inl ⟨_, fun _ => rfl⟩
    | ok bytes =>
      obtain ⟨fits, rfl⟩ := Record.encode_eq_ok_iff.1 hencode
      refine Or.inr ⟨transport.write.stamp type data, fits, fun wire accepts => ?_⟩
      dsimp only
      rw [Wire.send_of_accepts accepts]
      rfl

end Connection

end RecordLayer
