import RecordLayer.Error

/-!
# Wires

Two channels, one in each direction, make a link between two ends.  A channel
keeps what has been written and not yet been read, in order.

A `Wire` is a link as one end sees it.  An end can be told to fail after a
number of operations and to read only a few bytes at a time; how many bytes
each of the coming reads takes can be fixed as well.
-/

namespace RecordLayer

/-! ## Channels -/

/-- One direction of a link. -/
structure Channel where
  /-- What has been written and not yet been read. -/
  queue : Bytes := []
  /-- The writing end is closed: nothing more will be written. -/
  writerClosed : Bool := false
  /-- The reading end is closed: nothing more will be read. -/
  readerClosed : Bool := false
deriving DecidableEq, Repr

/-! ## Faults -/

/-- A failure that comes after some operations that work. -/
structure Fault where
  after : Nat
  error : StreamError
deriving DecidableEq, Repr

/-- Count one operation against a fault. -/
def Fault.strike : Option Fault → Except StreamError (Option Fault)
  | none => .ok none
  | some { after := 0, error } => .error error
  | some { after := count + 1, error } => .ok (some { after := count, error })

/-- What is special about an end of a link. -/
structure Port where
  /-- The most bytes that are read at a time. -/
  limit : Option Nat := none
  /-- The most bytes that each of the coming reads takes.  The reads after
  them go by `limit`. -/
  pieces : List Nat := []
  readFault : Option Fault := none
  writeFault : Option Fault := none
deriving DecidableEq, Repr

/-! ## One end of a link -/

/-- A link as one end sees it. -/
structure Wire where
  incoming : Channel := {}
  outgoing : Channel := {}
  port : Port := {}
deriving DecidableEq, Repr

namespace Wire

/-- Whether this end is closed. -/
def closed (wire : Wire) : Bool := wire.incoming.readerClosed

/-- How many bytes a read of at most `count` bytes may take. -/
def allowance (wire : Wire) (count : Nat) : Nat :=
  match wire.port.pieces, wire.port.limit with
  | piece :: _, _ => min count piece
  | [], some limit => min count limit
  | [], none => count

/-- Read at most `count` bytes.  No bytes at all are the end of the stream. -/
def receive (wire : Wire) (count : Nat) : Except StreamError Bytes × Wire :=
  if wire.incoming.readerClosed then (.error .badDescriptor, wire)
  else
    match Fault.strike wire.port.readFault with
    | .error e => (.error e, wire)
    | .ok readFault =>
      let wire := { wire with port := { wire.port with readFault } }
      if wire.incoming.queue.isEmpty && !wire.incoming.writerClosed then
        (.error .wouldBlock, wire)
      else
        let (chunk, rest) := wire.incoming.queue.splitAt (wire.allowance count)
        (.ok chunk, { wire with
          incoming := { wire.incoming with queue := rest }
          port := { wire.port with pieces := wire.port.pieces.tail } })

/-- Write all of some bytes. -/
def send (wire : Wire) (bytes : Bytes) : Except StreamError Unit × Wire :=
  if wire.outgoing.writerClosed then (.error .badDescriptor, wire)
  else
    match Fault.strike wire.port.writeFault with
    | .error e => (.error e, wire)
    | .ok writeFault =>
      let wire := { wire with port := { wire.port with writeFault } }
      if wire.outgoing.readerClosed then (.error .brokenPipe, wire)
      else
        (.ok (), { wire with outgoing := { wire.outgoing with
          queue := wire.outgoing.queue ++ bytes } })

/-- Close this end. -/
def close (wire : Wire) : Wire :=
  { wire with
    incoming := { wire.incoming with readerClosed := true }
    outgoing := { wire.outgoing with writerClosed := true } }

/-- What a read takes and what it leaves make up what was there. -/
theorem receive_queue {wire wire' : Wire} {count : Nat} {chunk : Bytes}
    (h : wire.receive count = (.ok chunk, wire')) :
    chunk ++ wire'.incoming.queue = wire.incoming.queue := by
  unfold receive at h
  split at h
  · simp at h
  · split at h
    · simp at h
    · dsimp only at h
      split at h
      · simp at h
      · simp only [List.splitAt_eq, Prod.mk.injEq, Except.ok.injEq] at h
        obtain ⟨rfl, rfl⟩ := h
        exact List.take_append_drop ..

/-- A read leaves the outgoing channel alone. -/
@[simp] theorem outgoing_receive (wire : Wire) (count : Nat) :
    (wire.receive count).2.outgoing = wire.outgoing := by
  unfold receive
  split
  · rfl
  · split
    · rfl
    · dsimp only
      split <;> rfl

end Wire

/-! ## Links -/

/-- Two channels and what is special about their ends. -/
structure Link where
  toClient : Channel := {}
  toServer : Channel := {}
  clientPort : Port := {}
  serverPort : Port := {}
deriving DecidableEq, Repr

namespace Link

/-- The link as one side sees it. -/
def wire (link : Link) : Side → Wire
  | .client => { incoming := link.toClient, outgoing := link.toServer, port := link.clientPort }
  | .server => { incoming := link.toServer, outgoing := link.toClient, port := link.serverPort }

/-- The link after one side has changed what it sees. -/
def setWire (link : Link) (side : Side) (wire : Wire) : Link :=
  match side with
  | .client =>
    { link with toClient := wire.incoming, toServer := wire.outgoing, clientPort := wire.port }
  | .server =>
    { link with toServer := wire.incoming, toClient := wire.outgoing, serverPort := wire.port }

@[simp] theorem wire_setWire (link : Link) (side : Side) (wire : Wire) :
    (link.setWire side wire).wire side = wire := by
  cases side <;> rfl

/-- The bytes that wait to be read by a side. -/
def unread (link : Link) (side : Side) : Bytes :=
  (link.wire side).incoming.queue

end Link

end RecordLayer
