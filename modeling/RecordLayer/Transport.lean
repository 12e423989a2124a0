import RecordLayer.Epoch
import RecordLayer.KeyLog

/-!
# Transports

A transport keeps an epoch for each direction, counts its records, and may be
set to skip early data until the first valid record.

`Transport.accept` decides on a complete record: it is skipped, rejected or
delivered.  `Endpoint` is a transport with the key log that it reports new
secrets to.
-/

namespace RecordLayer

/-! ## Transports -/

/-- One side's record layer. -/
structure Transport where
  side : Side
  /-- Whether new secrets are reported to a key log. -/
  logs : Bool := false
  /-- The client random of the connection, empty if it is not known. -/
  random : Bytes := []
  read : Epoch := {}
  write : Epoch := {}
  /-- Records of early data are dropped until the first valid record. -/
  skipping : Bool := false
  sent : Nat := 0
  received : Nat := 0
  skipped : Nat := 0
deriving DecidableEq, Repr

/-- A record as it is delivered: its type and its plaintext. -/
structure Delivery where
  type : RecordType
  data : Bytes
deriving DecidableEq, Repr

namespace Transport

/-- The epoch of a direction. -/
def epoch (transport : Transport) : Direction → Epoch
  | .read => transport.read
  | .write => transport.write

/-- The transport with another epoch for a direction. -/
def setEpoch (transport : Transport) (direction : Direction) (epoch : Epoch) : Transport :=
  match direction with
  | .read => { transport with read := epoch }
  | .write => { transport with write := epoch }

/-- Whether a record is dropped as early data. -/
def skips (transport : Transport) (header : Header) : Bool :=
  header.level ≠ transport.read.level && transport.skipping &&
    header.level = Level.earlyData.code

/-- Decide on a complete record; nothing is delivered if it is skipped.  A
valid record ends the skipping of early data, also if its tag turns out to be
unknown. -/
def accept (header : Header) (body : Bytes) : Act Transport (Option Delivery) := do
  let transport ← Act.get
  if transport.skips header then
    Act.set { transport with skipped := transport.skipped + 1 }
    Act.note [.skipped header]
    return none
  match transport.read.accept header body with
  | .error cause =>
    Act.note [.rejected header cause]
    Act.fail cause
  | .ok data =>
    Act.set { transport with skipping := false, received := transport.received + 1 }
    Act.note [.received header]
    let type ← Act.ofResult (RecordType.ofTag header.tag)
    return some { type, data }

/-- What has come of a read: bytes of the record under way, or a failure of
the stream.  The result is the record as far as it is there, or a delivery. -/
def takeIn (intake : Intake) (chunk : Except StreamError Bytes) :
    Act Transport (Intake ⊕ Delivery) :=
  match chunk with
  | .error e => Act.fail (intake.interrupted e)
  | .ok [] => Act.fail (intake.interrupted .ended)
  | .ok chunk => do
    match ← Act.ofResult (intake.feed chunk) with
    | .awaiting intake => return .inl intake
    | .whole header body =>
      match ← accept header body with
      | none => return .inl {}
      | some delivery => return .inr delivery

/-- Only bytes keep a read going. -/
theorem chunk_ne_nil_of_takeIn {intake : Intake} {chunk : Except StreamError Bytes}
    {transport : Transport} {a : Intake ⊕ Delivery}
    (h : (takeIn intake chunk transport).result = .ok a) :
    ∃ bytes, chunk = .ok bytes ∧ bytes ≠ [] := by
  unfold takeIn at h
  split at h
  · simp at h
  · simp at h
  · next bytes ne => exact ⟨bytes, rfl, fun eq => ne (eq ▸ rfl)⟩

end Transport

/-! ## Endpoints -/

/-- A transport with its key log. -/
structure Endpoint where
  transport : Transport
  log : KeyLog := {}
deriving DecidableEq, Repr

namespace Endpoint

/-- Work on the key log alone. -/
def onLog {α : Type} : Act KeyLog α → Act Endpoint α :=
  Act.focus Endpoint.log fun endpoint log => { endpoint with log }

/-- Work on the transport alone. -/
def onTransport {α : Type} : Act Transport α → Act Endpoint α :=
  Act.focus Endpoint.transport fun endpoint transport => { endpoint with transport }

/-- Report a secret to the key log, if the transport does that, the client
random is known and the secret has a label. -/
def report (direction : Direction) (level : Code) (secret : Bytes) : Act Endpoint Unit := do
  let transport := (← Act.get).transport
  if transport.logs && !transport.random.isEmpty then
    match KeyLog.label? level (direction.sender transport.side) with
    | some label => discard (onLog (KeyLog.append transport.random [(some label, secret)]))
    | none => return ()

/-- Work on the epoch of one direction alone. -/
def onEpoch {α : Type} (direction : Direction) (action : Act Epoch α) : Act Endpoint α :=
  onTransport (Act.focus (Transport.epoch · direction) (Transport.setEpoch · direction) action)

/-- Install a new epoch in one direction and report its secret. -/
def install (direction : Direction) (level : Code) (suite : Int) (secret : Secret) :
    Act Endpoint Unit := do
  onEpoch direction (Epoch.install level suite secret)
  let epoch := (← Act.get).transport.epoch direction
  report direction level epoch.secret
  Act.note [.installed direction epoch.level epoch.suite epoch.secret.length]

/-- Change the level of one direction. -/
def setLevel (direction : Direction) (level : Code) : Act Endpoint Unit := do
  let transport := (← Act.get).transport
  let epoch ← Act.ofResult ((transport.epoch direction).setLevel level)
  Act.modify fun endpoint =>
    { endpoint with transport := endpoint.transport.setEpoch direction epoch }

end Endpoint

end RecordLayer
