import RecordLayer.Transport
import RecordLayer.Wire

/-!
# Connections

A connection is an endpoint on a wire.  `Connection.writeRecord` sends one
record; `Connection.readRecord` receives until a record is delivered or
something fails.  `Connection.receive` is one read from the wire, the step
that `readRecord` repeats.
-/

namespace RecordLayer

/-- A transport with its key log and its end of a link. -/
structure Connection extends Endpoint where
  wire : Wire
deriving DecidableEq, Repr

namespace Connection

/-- Work on the endpoint alone. -/
def onEndpoint {α : Type} : Act Endpoint α → Act Connection α :=
  Act.focus Connection.toEndpoint fun connection endpoint =>
    { connection with toEndpoint := endpoint }

/-- Work on the transport alone. -/
def onTransport {α : Type} (action : Act Transport α) : Act Connection α :=
  onEndpoint (Endpoint.onTransport action)

/-- Write bytes to the wire as they are. -/
def sendRaw (bytes : Bytes) : Act Connection Unit := fun connection =>
  let (result, wire) := connection.wire.send bytes
  { result := result.mapError Error.stream, state := { connection with wire } }

/-- Close this end of the link. -/
def close : Act Connection Unit :=
  Act.modify fun connection => { connection with wire := connection.wire.close }

/-- Send one record under the write epoch.  The result is the number of bytes
of plaintext. -/
def writeRecord (type : Code) (data : Bytes) : Act Connection Nat := do
  let transport := (← Act.get).transport
  let type ← Act.ofResult (RecordType.forSending type)
  let record := transport.write.stamp type data
  let bytes ← Act.ofResult record.encode
  sendRaw bytes
  onTransport (Act.modify fun transport => { transport with sent := transport.sent + 1 })
  Act.note [.sent record]
  return data.length

/-- One read from the wire for the record under way. -/
def receive (intake : Intake) : Act Connection (Intake ⊕ Delivery) := fun connection =>
  match connection.wire.receive intake.missing with
  | (chunk, wire) => onTransport (Transport.takeIn intake chunk) { connection with wire }

/-- A read leaves the outgoing channel alone. -/
theorem outgoing_receive (intake : Intake) (connection : Connection) :
    (receive intake connection).state.wire.outgoing = connection.wire.outgoing := by
  rw [← Wire.outgoing_receive connection.wire intake.missing]
  unfold receive
  split
  next hwire => rw [hwire]; rfl

/-- A read that does not fail takes bytes off the wire. -/
theorem receive_shortens {intake : Intake} {connection : Connection} {a : Intake ⊕ Delivery}
    (h : (receive intake connection).result = .ok a) :
    (receive intake connection).state.wire.incoming.queue.length <
      connection.wire.incoming.queue.length := by
  unfold receive at h ⊢
  split at h
  next chunk wire hwire =>
    obtain ⟨bytes, rfl, hne⟩ := Transport.chunk_ne_nil_of_takeIn h
    have hpos := List.length_pos_iff.2 hne
    rw [← Wire.receive_queue hwire, List.length_append]
    show wire.incoming.queue.length < _
    omega

/-- Receive the rest of the record under way and whatever follows it until a
record is delivered; `before` are the notes so far. -/
def readOn (intake : Intake) (before : List Note) (connection : Connection) :
    Outcome Connection Delivery :=
  match _h : receive intake connection with
  | { result := .error e, state, notes } =>
    { result := .error e, state, notes := before ++ notes }
  | { result := .ok (.inr delivery), state, notes } =>
    { result := .ok delivery, state, notes := before ++ notes }
  | { result := .ok (.inl intake'), state, notes } => readOn intake' (before ++ notes) state
termination_by connection.wire.incoming.queue.length
decreasing_by simpa [_h] using receive_shortens (congrArg Outcome.result _h)

/-- Receive the next record that is not skipped. -/
def readRecord : Act Connection Delivery := readOn {} []

end Connection

end RecordLayer
