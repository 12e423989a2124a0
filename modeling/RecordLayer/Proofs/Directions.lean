import Mathlib.Tactic.Common
import RecordLayer.Proofs.Conservation

/-!
# The two directions do not meet

One caller may read from a connection while another writes to it.  Nothing
that the one does changes what the other gets.

A connection falls into a half for each direction (`Connection.Reader`,
`Connection.Writer`), what both go by and neither changes
(`Connection.Shared`), and the lines of the key log.  An action is
`Connection.Local` to a direction if it goes by that half alone, changes that
half alone and adds lines to the key log.

* `Pair.local_act`: every call but a close is local to its direction.
* `Pair.alike_after`: what a sequence of calls for one direction comes to is
  not changed by calls for the other that are made in between.
* `Pair.directions_independent`: all interleavings of two such sequences come
  to the same, up to the order of the lines in the key log.
-/

namespace RecordLayer

/-! ## Halves of a connection -/

/-- What a call may add to a key log: its file, and lines. -/
structure KeyLog.Growth where
  created : Bool := false
  entries : List KeyLog.Entry := []

/-- The key log with what has been added. -/
def KeyLog.grownBy (log : KeyLog) (growth : KeyLog.Growth) : KeyLog :=
  { log with
    created := log.created || growth.created
    entries := log.entries ++ growth.entries }

/-- One addition after another. -/
def KeyLog.Growth.then (first second : KeyLog.Growth) : KeyLog.Growth :=
  { created := first.created || second.created, entries := first.entries ++ second.entries }

@[simp] theorem KeyLog.grownBy_nothing (log : KeyLog) : log.grownBy {} = log := by
  simp [grownBy]

@[simp] theorem KeyLog.grownBy_grownBy (log : KeyLog) (first second : KeyLog.Growth) :
    (log.grownBy first).grownBy second = log.grownBy (first.then second) := by
  simp [grownBy, Growth.then, Bool.or_assoc]

namespace Connection

/-- What both directions go by and neither changes. -/
structure Shared where
  side : Side
  logs : Bool
  random : Bytes
  fault : Option FileError

/-- What only reading goes by or changes. -/
structure Reader where
  epoch : Epoch
  skipping : Bool
  received : Nat
  skipped : Nat
  channel : Channel
  limit : Option Nat
  pieces : List Nat
  fault : Option Fault

/-- What only writing goes by or changes. -/
structure Writer where
  epoch : Epoch
  sent : Nat
  channel : Channel
  fault : Option Fault

/-- The half of a connection for a direction. -/
def Half : Direction → Type
  | .read => Reader
  | .write => Writer

/-- What both directions of a connection go by. -/
def shared (connection : Connection) : Shared :=
  { side := connection.transport.side
    logs := connection.transport.logs
    random := connection.transport.random
    fault := connection.log.fault }

/-- The half of a connection for a direction. -/
def half (connection : Connection) : (direction : Direction) → Half direction
  | .read =>
    ({ epoch := connection.transport.read
       skipping := connection.transport.skipping
       received := connection.transport.received
       skipped := connection.transport.skipped
       channel := connection.wire.incoming
       limit := connection.wire.port.limit
       pieces := connection.wire.port.pieces
       fault := connection.wire.port.readFault } : Reader)
  | .write =>
    ({ epoch := connection.transport.write
       sent := connection.transport.sent
       channel := connection.wire.outgoing
       fault := connection.wire.port.writeFault } : Writer)

/-- The connection with another half for reading. -/
def withReader (connection : Connection) (reader : Reader) : Connection :=
  { transport := { connection.transport with
      read := reader.epoch, skipping := reader.skipping
      received := reader.received, skipped := reader.skipped }
    log := connection.log
    wire := { connection.wire with
      incoming := reader.channel
      port := { connection.wire.port with
        limit := reader.limit, pieces := reader.pieces, readFault := reader.fault } } }

/-- The connection with another half for writing. -/
def withWriter (connection : Connection) (writer : Writer) : Connection :=
  { transport := { connection.transport with write := writer.epoch, sent := writer.sent }
    log := connection.log
    wire := { connection.wire with
      outgoing := writer.channel
      port := { connection.wire.port with writeFault := writer.fault } } }

/-- The connection with another half for a direction. -/
def withHalf (connection : Connection) : (direction : Direction) → Half direction → Connection
  | .read, reader => connection.withReader reader
  | .write, writer => connection.withWriter writer

/-- The connection after something was added to the key log. -/
def logging (connection : Connection) (growth : KeyLog.Growth) : Connection :=
  { connection with log := connection.log.grownBy growth }

@[simp] theorem shared_withHalf (connection : Connection) (direction : Direction)
    (half : Half direction) : (connection.withHalf direction half).shared = connection.shared := by
  cases direction <;> rfl

@[simp] theorem shared_logging (connection : Connection) (growth : KeyLog.Growth) :
    (connection.logging growth).shared = connection.shared := rfl

@[simp] theorem half_withHalf (connection : Connection) (direction : Direction)
    (half : Half direction) : (connection.withHalf direction half).half direction = half := by
  cases direction <;> rfl

theorem half_withHalf_of_ne (connection : Connection) {direction other : Direction}
    (hne : other ≠ direction) (half : Half direction) :
    (connection.withHalf direction half).half other = connection.half other := by
  cases direction <;> cases other
  · exact absurd rfl hne
  · rfl
  · rfl
  · exact absurd rfl hne

@[simp] theorem half_logging (connection : Connection) (growth : KeyLog.Growth)
    (direction : Direction) : (connection.logging growth).half direction = connection.half direction := by
  cases direction <;> rfl

@[simp] theorem log_withHalf (connection : Connection) (direction : Direction)
    (half : Half direction) : (connection.withHalf direction half).log = connection.log := by
  cases direction <;> rfl

@[simp] theorem log_logging (connection : Connection) (growth : KeyLog.Growth) :
    (connection.logging growth).log = connection.log.grownBy growth := rfl

@[simp] theorem logging_nothing (connection : Connection) : connection.logging {} = connection := by
  simp [logging]

/-- Only the last of two changes of one half is left. -/
theorem withHalf_logging_withHalf (connection : Connection) (direction : Direction)
    (first second : Half direction) (growth growth' : KeyLog.Growth) :
    ((((connection.withHalf direction first).logging growth).withHalf direction second).logging
        growth') =
      (connection.withHalf direction second).logging (growth.then growth') := by
  cases direction <;>
    simp [withHalf, withReader, withWriter, logging]

/-- The two halves and what they share make up all but the key log. -/
theorem eq_of_halves {connection connection' : Connection}
    (hshared : connection.shared = connection'.shared)
    (hhalf : ∀ direction, connection.half direction = connection'.half direction) :
    connection.transport = connection'.transport ∧ connection.wire = connection'.wire ∧
      connection.log.fault = connection'.log.fault := by
  obtain ⟨⟨transport, log⟩, ⟨incoming, outgoing, port⟩⟩ := connection
  obtain ⟨⟨transport', log'⟩, ⟨incoming', outgoing', port'⟩⟩ := connection'
  obtain ⟨hside, hlogs, hrandom, hfault⟩ := Shared.mk.inj hshared
  obtain ⟨hread, hskipping, hreceived, hskipped, rfl, hlimit, hpieces, hreadFault⟩ :=
    Reader.mk.inj (hhalf .read)
  obtain ⟨hwrite, hsent, rfl, hwriteFault⟩ := Writer.mk.inj (hhalf .write)
  refine ⟨?_, ?_, hfault⟩
  · exact Transport.mk.injEq .. ▸ ⟨hside, hlogs, hrandom, hread, hwrite, hskipping, hsent,
      hreceived, hskipped⟩
  · obtain rfl : port = port' :=
      Port.mk.injEq .. ▸ ⟨hlimit, hpieces, hreadFault, hwriteFault⟩
    rfl

/-! ## Local actions -/

/-- An action that goes by one half of a connection, changes that half and adds to the
key log, in the same way whatever the other half is and whatever the key log holds. -/
def Local (direction : Direction) {α : Type} (action : Act Connection α) : Prop :=
  ∀ (shared : Shared) (half : Half direction), ∃ result half' growth notes,
    ∀ connection : Connection, connection.shared = shared → connection.half direction = half →
      action connection =
        { result, state := (connection.withHalf direction half').logging growth, notes }

/-- A change of one half that goes by that half alone. -/
theorem local_modify {direction : Direction} {f : Connection → Connection}
    {g : Half direction → Half direction}
    (h : ∀ connection, f connection = connection.withHalf direction (g (connection.half direction))) :
    Local direction (Act.modify f) := by
  intro shared half
  refine ⟨.ok (), g half, {}, [], fun connection _ hhalf => ?_⟩
  rw [Act.modify_apply, h, hhalf, logging_nothing]

/-- An answer is local if what is answered is. -/
theorem Local.answerNothing {direction : Direction} {action : Act Connection Unit}
    (h : Local direction action) : Local direction (Pair.answerNothing action) := by
  intro shared half
  obtain ⟨result, half', growth, notes, haction⟩ := h shared half
  refine ⟨result.map fun _ => .nothing, half', growth, notes, fun connection hshared hhalf => ?_⟩
  rw [Pair.answerNothing_apply, haction connection hshared hhalf]

/-! ### Epochs -/

/-- A half with another epoch. -/
def Half.withEpoch : (direction : Direction) → Half direction → Epoch → Half direction
  | .read, reader, epoch => { (reader : Reader) with epoch }
  | .write, writer, epoch => { (writer : Writer) with epoch }

/-- The epoch of a half. -/
def Half.epoch : (direction : Direction) → Half direction → Epoch
  | .read, reader => Reader.epoch reader
  | .write, writer => Writer.epoch writer

theorem epoch_half (connection : Connection) (direction : Direction) :
    Half.epoch direction (connection.half direction) = connection.transport.epoch direction := by
  cases direction <;> rfl

theorem setEpoch_eq_withHalf (connection : Connection) (direction : Direction) (epoch : Epoch) :
    { connection with transport := connection.transport.setEpoch direction epoch } =
      connection.withHalf direction (Half.withEpoch direction (connection.half direction) epoch) := by
  cases direction <;> rfl

/-- The label of a secret goes by what both directions share. -/
def Shared.label? (shared : Shared) (direction : Direction) (level : Code) : Option String :=
  if shared.logs && !shared.random.isEmpty then
    KeyLog.label? level (direction.sender shared.side)
  else none

/-- Installing an epoch is local to its direction, also when it fails. -/
theorem local_install (direction : Direction) (level : Code) (suite : Int) (secret : Secret) :
    Local direction (onEndpoint (Endpoint.install direction level suite secret)) := by
  intro shared half
  have hinstall : ∀ connection : Connection, connection.half direction = half →
      Epoch.install level suite secret (connection.transport.epoch direction) =
        Epoch.install level suite secret (Half.epoch direction half) := by
    rintro connection rfl
    rw [epoch_half]
  generalize Epoch.install level suite secret (Half.epoch direction half) = installed at hinstall
  obtain ⟨result, epoch, notes⟩ := installed
  cases result with
  | error cause =>
    refine ⟨.error cause, Half.withEpoch direction half epoch, {}, [],
      fun connection _ hhalf => ?_⟩
    simp only [onEndpoint, Act.focus_apply, Endpoint.install_eq, hinstall connection hhalf,
      logging_nothing, ← hhalf, ← setEpoch_eq_withHalf]
    rfl
  | ok =>
  have hlabel : ∀ connection : Connection, connection.shared = shared →
      connection.toEndpoint.label? direction level = shared.label? direction level := by
    intro connection hshared
    subst hshared
    rfl
  have hfault : ∀ connection : Connection, connection.shared = shared →
      (connection.toEndpoint.withEpoch direction epoch).log.fault = shared.fault := by
    intro connection hshared
    subst hshared
    rfl
  cases hlabelled : shared.label? direction level with
  | none =>
    refine ⟨.ok (), Half.withEpoch direction half epoch, {},
      [.installed direction epoch.level epoch.suite epoch.secret.length],
      fun connection hshared hhalf => ?_⟩
    simp only [onEndpoint, Act.focus_apply, Endpoint.install_eq, hinstall connection hhalf,
      Endpoint.report_eq, Endpoint.label?_withEpoch, hlabel connection hshared, hlabelled,
      logging_nothing, ← hhalf, ← setEpoch_eq_withHalf]
    rfl
  | some label =>
  cases hunusable : shared.fault with
  | some fault =>
    refine ⟨.error (.file fault), Half.withEpoch direction half epoch, {}, [],
      fun connection hshared hhalf => ?_⟩
    simp only [onEndpoint, Act.focus_apply, Endpoint.install_eq, hinstall connection hhalf,
      Endpoint.report_eq, Endpoint.label?_withEpoch, hlabel connection hshared, hlabelled,
      hfault connection hshared, hunusable, logging_nothing, ← hhalf, ← setEpoch_eq_withHalf]
    rfl
  | none =>
    refine ⟨.ok (), Half.withEpoch direction half epoch,
      { created := true
        entries := KeyLog.entriesFor shared.random [(some label, epoch.secret)] },
      [.installed direction epoch.level epoch.suite epoch.secret.length],
      fun connection hshared hhalf => ?_⟩
    simp only [onEndpoint, Act.focus_apply, Endpoint.install_eq, hinstall connection hhalf,
      Endpoint.report_eq, Endpoint.label?_withEpoch, hlabel connection hshared, hlabelled,
      hfault connection hshared, hunusable, ← hhalf, ← setEpoch_eq_withHalf]
    subst hshared
    cases direction <;>
      simp [logging, KeyLog.grown, KeyLog.grownBy, Endpoint.withEpoch, Transport.setEpoch, shared]

/-- Changing a level is local to its direction, also when it fails. -/
theorem local_setLevel (direction : Direction) (level : Code) :
    Local direction (onEndpoint (Endpoint.setLevel direction level)) := by
  intro shared half
  cases hepoch : (Half.epoch direction half).setLevel level with
  | error cause =>
    refine ⟨.error cause, half, {}, [], fun connection _ hhalf => ?_⟩
    subst hhalf
    rw [epoch_half] at hepoch
    simp only [onEndpoint, Act.focus_apply, Endpoint.setLevel, Act.bind_apply, Act.get_apply,
      Act.ofResult_apply, hepoch, logging_nothing]
    cases direction <;> rfl
  | ok epoch =>
    refine ⟨.ok (), Half.withEpoch direction half epoch, {}, [], fun connection _ hhalf => ?_⟩
    subst hhalf
    rw [epoch_half] at hepoch
    simp only [onEndpoint, Act.focus_apply, Endpoint.setLevel, Act.bind_apply, Act.get_apply,
      Act.ofResult_apply, hepoch, logging_nothing]
    cases direction <;> rfl

/-! ### Writing -/

/-- A send goes by the outgoing channel and the faults of writing alone. -/
theorem send_eq_of_writing {wire wire' : Wire} (houtgoing : wire.outgoing = wire'.outgoing)
    (hfault : wire.port.writeFault = wire'.port.writeFault) (bytes : Bytes) :
    wire.send bytes =
      ((wire'.send bytes).1,
        { wire with
          outgoing := (wire'.send bytes).2.outgoing
          port := { wire.port with writeFault := (wire'.send bytes).2.port.writeFault } }) := by
  obtain ⟨incoming, outgoing, ⟨limit, pieces, readFault, writeFault⟩⟩ := wire
  obtain ⟨incoming', outgoing', ⟨limit', pieces', readFault', writeFault'⟩⟩ := wire'
  dsimp only at houtgoing hfault
  subst houtgoing hfault
  simp only [Wire.send]
  cases outgoing.writerClosed with
  | true => rfl
  | false =>
    cases Fault.strike writeFault with
    | error e => rfl
    | ok fault => cases outgoing.readerClosed <;> rfl

/-- A wire that writes as a half does. -/
def Writer.wire (writer : Writer) : Wire :=
  { outgoing := writer.channel, port := { writeFault := writer.fault } }

/-- The half after a send on its wire, with so many more records sent. -/
def Writer.after (writer : Writer) (wire : Wire) (count : Nat) : Writer :=
  { writer with
    sent := writer.sent + count
    channel := wire.outgoing
    fault := wire.port.writeFault }

theorem send_of_half {connection : Connection} {writer : Writer}
    (h : connection.half .write = writer) (bytes : Bytes) :
    connection.wire.send bytes =
      ((writer.wire.send bytes).1,
        { connection.wire with
          outgoing := (writer.wire.send bytes).2.outgoing
          port := { connection.wire.port with
            writeFault := (writer.wire.send bytes).2.port.writeFault } }) := by
  subst h
  exact @send_eq_of_writing connection.wire (Writer.wire (connection.half .write)) rfl rfl bytes

/-- Sending bytes is local to writing. -/
theorem local_sendRaw (bytes : Bytes) : Local .write (sendRaw bytes) := by
  intro shared writer
  refine ⟨(Writer.wire writer |>.send bytes).1.mapError Error.stream,
    Writer.after writer (Writer.wire writer |>.send bytes).2 0, {}, [],
    fun connection _ hhalf => ?_⟩
  simp only [sendRaw, send_of_half hhalf]
  subst hhalf
  rw [logging_nothing]
  rfl

/-- Writing a record is local to writing. -/
theorem local_writeRecord (type : Code) (data : Bytes) : Local .write (writeRecord type data) := by
  intro shared writer
  cases htype : RecordType.sendable? type with
  | none =>
    refine ⟨.error (.unsupportedType type), writer, {}, [], fun connection _ hhalf => ?_⟩
    subst hhalf
    simp only [writeRecord_eq, htype, logging_nothing]
    rfl
  | some sendable =>
  have hstamp : ∀ connection : Connection, connection.half .write = writer →
      connection.transport.write.stamp sendable data =
        (Writer.epoch writer).stamp sendable data := by
    intro connection hhalf
    subst hhalf
    rfl
  cases hencode : ((Writer.epoch writer).stamp sendable data).encode with
  | error cause =>
    refine ⟨.error cause, writer, {}, [], fun connection _ hhalf => ?_⟩
    simp only [writeRecord_eq, htype, hstamp connection hhalf, hencode, logging_nothing]
    subst hhalf
    rfl
  | ok bytes =>
  cases hsend : (Writer.wire writer).send bytes with
  | mk result wire =>
  cases result with
  | error error =>
    refine ⟨.error (.stream error), Writer.after writer wire 0, {}, [],
      fun connection _ hhalf => ?_⟩
    simp only [writeRecord_eq, htype, hstamp connection hhalf, hencode, send_of_half hhalf, hsend,
      logging_nothing]
    subst hhalf
    rfl
  | ok =>
    refine ⟨.ok data.length, Writer.after writer wire 1, {},
      [.sent ((Writer.epoch writer).stamp sendable data)], fun connection _ hhalf => ?_⟩
    simp only [writeRecord_eq, htype, hstamp connection hhalf, hencode, send_of_half hhalf, hsend,
      logging_nothing]
    subst hhalf
    rfl

/-! ### Reading -/

/-- A receive goes by the incoming channel and how the end reads alone. -/
theorem receive_eq_of_reading {wire wire' : Wire} (hincoming : wire.incoming = wire'.incoming)
    (hlimit : wire.port.limit = wire'.port.limit) (hpieces : wire.port.pieces = wire'.port.pieces)
    (hfault : wire.port.readFault = wire'.port.readFault) (count : Nat) :
    wire.receive count =
      ((wire'.receive count).1,
        { wire with
          incoming := (wire'.receive count).2.incoming
          port := { (wire'.receive count).2.port with writeFault := wire.port.writeFault } }) := by
  obtain ⟨incoming, outgoing, ⟨limit, pieces, readFault, writeFault⟩⟩ := wire
  obtain ⟨incoming', outgoing', ⟨limit', pieces', readFault', writeFault'⟩⟩ := wire'
  dsimp only at hincoming hlimit hpieces hfault
  subst hincoming hlimit hpieces hfault
  simp only [Wire.receive]
  cases incoming.readerClosed with
  | true => rfl
  | false =>
    cases Fault.strike readFault with
    | error e => rfl
    | ok fault => cases incoming.queue.isEmpty && !incoming.writerClosed <;> rfl

/-- The transport with what reading goes by from another one. -/
def readingAs (transport reading : Transport) : Transport :=
  { transport with
    read := reading.read, skipping := reading.skipping
    received := reading.received, skipped := reading.skipped }

/-- A decision on a record goes by the reading part of a transport alone. -/
theorem accept_readingAs (header : Header) (body : Bytes) (transport reading : Transport) :
    Transport.accept header body (readingAs transport reading) =
      { result := (Transport.accept header body reading).result
        state := readingAs transport (Transport.accept header body reading).state
        notes := (Transport.accept header body reading).notes } := by
  by_cases hdrops : reading.Drops header
  · have hdrops' : (readingAs transport reading).Drops header := hdrops
    rw [Transport.accept_of_drops hdrops, Transport.accept_of_drops hdrops']
    rfl
  · have hdrops' : ¬(readingAs transport reading).Drops header := hdrops
    rw [Transport.accept_of_not_drops [] hdrops, Transport.accept_of_not_drops [] hdrops']
    have hread : (readingAs transport reading).read = reading.read := rfl
    cases hrefusal : reading.read.refusal? header body with
    | some cause =>
      simp only [Transport.judge, hread, hrefusal]
    | none =>
      simp only [Transport.judge, hread, hrefusal]
      rfl

/-- What has come of a read goes by the reading part of a transport alone. -/
theorem takeIn_readingAs (intake : Intake) (chunk : Except StreamError Bytes)
    (transport reading : Transport) :
    Transport.takeIn intake chunk (readingAs transport reading) =
      { result := (Transport.takeIn intake chunk reading).result
        state := readingAs transport (Transport.takeIn intake chunk reading).state
        notes := (Transport.takeIn intake chunk reading).notes } := by
  match chunk with
  | .error e => rfl
  | .ok [] => rfl
  | .ok (byte :: chunk) =>
    simp only [Transport.takeIn, Act.bind_apply, Act.ofResult_apply]
    cases intake.feed (byte :: chunk) with
    | error e => rfl
    | ok arrival =>
    cases arrival with
    | awaiting intake => rfl
    | whole header body =>
      simp only [Act.bind_apply, accept_readingAs]
      rcases Transport.accept header body reading with ⟨_ | _ | delivery, state, notes⟩ <;> rfl

/-- A wire that reads as a half does. -/
def Reader.wire (reader : Reader) : Wire :=
  { incoming := reader.channel
    port := { limit := reader.limit, pieces := reader.pieces, readFault := reader.fault } }

/-- A transport that reads as a half does. -/
def Reader.transport (reader : Reader) : Transport :=
  { side := .client
    read := reader.epoch
    skipping := reader.skipping
    received := reader.received
    skipped := reader.skipped }

/-- One read from the wire is local to reading. -/
theorem local_receive (intake : Intake) : Local .read (receive intake) := by
  intro shared reader
  cases hreceive : (Reader.wire reader).receive intake.missing with
  | mk chunk wire =>
  cases htake : Transport.takeIn intake chunk (Reader.transport reader) with
  | mk result transport notes =>
  let reader' : Reader :=
    { epoch := transport.read
      skipping := transport.skipping
      received := transport.received
      skipped := transport.skipped
      channel := wire.incoming
      limit := wire.port.limit
      pieces := wire.port.pieces
      fault := wire.port.readFault }
  refine ⟨result, reader', {}, notes, fun connection _ hhalf => ?_⟩
  subst hhalf
  have hwire := @receive_eq_of_reading connection.wire (Reader.wire (connection.half .read))
    rfl rfl rfl rfl intake.missing
  have htransport : Transport.takeIn intake chunk connection.transport = _ :=
    takeIn_readingAs intake chunk connection.transport (Reader.transport (connection.half .read))
  rw [hreceive] at hwire
  rw [htake] at htransport
  simp only [receive, hwire, onTransport_apply, htransport, logging_nothing]
  rfl

/-- A half for reading belongs to some connection, whatever both directions share. -/
theorem exists_connection (shared : Shared) (reader : Reader) :
    ∃ connection : Connection, connection.shared = shared ∧ connection.half .read = reader :=
  ⟨{ transport := { reader.transport with
       side := shared.side, logs := shared.logs, random := shared.random }
     log := { fault := shared.fault }
     wire := reader.wire }, rfl, rfl⟩

/-- Reading on is local to reading. -/
theorem local_readOn (intake : Intake) (before : List Note) :
    Local .read (readOn intake before) := by
  intro shared reader
  -- induction on the bytes that are there: whatever keeps a read going takes some
  induction hn : (Reader.channel reader).queue.length using Nat.strongRecOn
    generalizing intake before reader with
  | ind n ih =>
    subst hn
    obtain ⟨result, reader', growth, notes, hreceive⟩ := local_receive intake shared reader
    match result with
    | .error e =>
      refine ⟨.error e, reader', growth, before ++ notes, fun connection hshared hhalf => ?_⟩
      rw [readOn_eq, hreceive connection hshared hhalf]
    | .ok (.inr delivery) =>
      refine ⟨.ok delivery, reader', growth, before ++ notes, fun connection hshared hhalf => ?_⟩
      rw [readOn_eq, hreceive connection hshared hhalf]
    | .ok (.inl intake') =>
      have hshorter : (Reader.channel reader').queue.length <
          (Reader.channel reader).queue.length := by
        obtain ⟨connection, hshared, hhalf⟩ := exists_connection shared reader
        have hreceived := hreceive connection hshared hhalf
        have hlength := receive_shortens (congrArg Outcome.result hreceived)
        rw [hreceived] at hlength
        subst hhalf
        exact hlength
      obtain ⟨result, reader'', growth', notes', hread⟩ :=
        ih _ hshorter intake' (before ++ notes) reader' rfl
      refine ⟨result, reader'', growth.then growth', notes', fun connection hshared hhalf => ?_⟩
      rw [readOn_eq, hreceive connection hshared hhalf]
      dsimp only
      rw [hread _ (by simp [hshared]) (by simp), withHalf_logging_withHalf]

/-- A read as a call is local to reading. -/
theorem local_act_read : Local .read (Pair.Call.act .read) := by
  intro shared reader
  obtain ⟨result, reader', growth, notes, hread⟩ := local_readOn {} [] shared reader
  refine ⟨result.map .delivery, reader', growth, notes, fun connection hshared hhalf => ?_⟩
  rw [Pair.act_read, readRecord, hread connection hshared hhalf]

/-- A write as a call is local to writing. -/
theorem local_act_write (type : Code) (data : Bytes) :
    Local .write (Pair.Call.act (.write type data)) := by
  intro shared writer
  obtain ⟨result, writer', growth, notes, hwrite⟩ := local_writeRecord type data shared writer
  refine ⟨result.map .count, writer', growth, notes, fun connection hshared hhalf => ?_⟩
  rw [Pair.act_write, hwrite connection hshared hhalf]

end Connection

namespace Pair

/-! ## Calls for one direction -/

/-- The direction that a call is for, if it is for one. -/
def Call.direction? : Call → Option Direction
  | .install direction .. | .setLevel direction _ | .assign direction _ | .fault direction _ =>
    some direction
  | .skip _ | .read | .limit _ => some .read
  | .write .. | .raw _ => some .write
  | .unstructured _ | .close => none

/-- A call for one direction is local to it. -/
theorem local_act {call : Call} {direction : Direction} (h : call.direction? = some direction) :
    Connection.Local direction call.act := by
  cases call with
  | install direction' level suite secret =>
    obtain rfl := Option.some.inj h
    exact (Connection.local_install _ level suite secret).answerNothing
  | setLevel direction' level =>
    obtain rfl := Option.some.inj h
    exact (Connection.local_setLevel _ level).answerNothing
  | assign direction' assignment =>
    obtain rfl := Option.some.inj h
    refine Connection.Local.answerNothing (Connection.local_modify
      (g := fun half => .withEpoch direction' half
        (assignment.apply (Connection.Half.epoch direction' half))) fun connection => ?_)
    rw [Connection.epoch_half, ← Connection.setEpoch_eq_withHalf]
    rfl
  | skip value =>
    obtain rfl := Option.some.inj h
    exact Connection.Local.answerNothing (Connection.local_modify
      (g := fun reader => { (reader : Connection.Reader) with skipping := value }) fun _ => rfl)
  | write type data =>
    obtain rfl := Option.some.inj h
    exact Connection.local_act_write type data
  | read =>
    obtain rfl := Option.some.inj h
    exact Connection.local_act_read
  | raw bytes =>
    obtain rfl := Option.some.inj h
    exact (Connection.local_sendRaw bytes).answerNothing
  | unstructured method => cases h
  | close => cases h
  | limit count =>
    obtain rfl := Option.some.inj h
    exact Connection.Local.answerNothing (Connection.local_modify
      (g := fun reader => { (reader : Connection.Reader) with limit := count }) fun _ => rfl)
  | fault direction' f =>
    obtain rfl := Option.some.inj h
    cases direction' with
    | read =>
      exact Connection.Local.answerNothing (Connection.local_modify
        (g := fun reader => { (reader : Connection.Reader) with fault := f }) fun _ => rfl)
    | write =>
      exact Connection.Local.answerNothing (Connection.local_modify
        (g := fun writer => { (writer : Connection.Writer) with fault := f }) fun _ => rfl)

/-! ## Interleavings of calls -/

/-- The third list is made up of the other two, each in its own order. -/
inductive Interleaves {α : Type} : List α → List α → List α → Prop where
  | nil : Interleaves [] [] []
  | left {x : α} {xs ys zs : List α} (h : Interleaves xs ys zs) : Interleaves (x :: xs) ys (x :: zs)
  | right {y : α} {xs ys zs : List α} (h : Interleaves xs ys zs) :
    Interleaves xs (y :: ys) (y :: zs)

/-- A call that was made, with what it gave back and noted. -/
structure Reply where
  call : Call
  result : Result Answer
  notes : List Note

/-- The replies to calls on a connection, made one after another. -/
def replies : Connection → List Call → List Reply
  | _, [] => []
  | connection, call :: calls =>
    { call, result := (call.act connection).result, notes := (call.act connection).notes } ::
      replies (call.act connection).state calls

/-- The connection after calls, made one after another. -/
def calling : Connection → List Call → Connection
  | connection, [] => connection
  | connection, call :: calls => calling (call.act connection).state calls

/-- Two connections look the same from one direction. -/
def Alike (direction : Direction) (connection connection' : Connection) : Prop :=
  connection.shared = connection'.shared ∧ connection.half direction = connection'.half direction

theorem Alike.refl (direction : Direction) (connection : Connection) :
    Alike direction connection connection := ⟨rfl, rfl⟩

/-- A call gives the same, and adds the same to the key log, on two connections that look the
same from its direction.  They still do, and from the other direction nothing has changed. -/
theorem alike_act {call : Call} {direction : Direction} (h : call.direction? = some direction)
    {connection connection' : Connection} (alike : Alike direction connection connection') :
    (call.act connection).result = (call.act connection').result ∧
      (call.act connection).notes = (call.act connection').notes ∧
      Alike direction (call.act connection).state (call.act connection').state ∧
      (∀ other ≠ direction, Alike other (call.act connection).state connection) ∧
      ∃ growth, (call.act connection).state.log = connection.log.grownBy growth ∧
        (call.act connection').state.log = connection'.log.grownBy growth := by
  obtain ⟨hshared, hhalf⟩ := alike
  obtain ⟨result, half, growth, notes, hact⟩ :=
    local_act h connection'.shared (connection'.half direction)
  rw [hact connection hshared hhalf, hact connection' rfl rfl]
  refine ⟨rfl, rfl, ⟨by simp [hshared], by simp⟩, fun other hne => ⟨by simp, ?_⟩, growth, ?_, ?_⟩
  · rw [Connection.half_logging, Connection.half_withHalf_of_ne connection hne]
  · simp
  · simp

/-- Calls for both directions come to what those for each direction alone come
to, and add to the key log what those add to it. -/
theorem alike_calling {reads writes calls : List Call}
    (hreads : ∀ call ∈ reads, call.direction? = some .read)
    (hwrites : ∀ call ∈ writes, call.direction? = some .write)
    (h : Interleaves reads writes calls) {connection reader writer : Connection}
    (hreader : Alike .read connection reader) (hwriter : Alike .write connection writer) :
    Interleaves (replies reader reads) (replies writer writes) (replies connection calls) ∧
      Alike .read (calling connection calls) (calling reader reads) ∧
      Alike .write (calling connection calls) (calling writer writes) ∧
      ∃ all read written : KeyLog.Growth,
        (calling connection calls).log = connection.log.grownBy all ∧
        (calling reader reads).log = reader.log.grownBy read ∧
        (calling writer writes).log = writer.log.grownBy written ∧
        all.created = (read.created || written.created) ∧
        all.entries.Perm (read.entries ++ written.entries) := by
  induction h generalizing connection reader writer with
  | nil =>
    exact ⟨.nil, hreader, hwriter, {}, {}, {}, by simp [calling], by simp [calling],
      by simp [calling], rfl, .refl _⟩
  | @left call reads writes calls h ih =>
    obtain ⟨hresult, hnotes, hsame, hother, growth, hlog, hlog'⟩ :=
      alike_act (hreads call List.mem_cons_self) hreader
    have hwriter' : Alike .write (call.act connection).state writer :=
      ⟨(hother .write (by simp)).1.trans hwriter.1, (hother .write (by simp)).2.trans hwriter.2⟩
    obtain ⟨hreplies, hread, hwrite, all, read, written, hall, hreadLog, hwriteLog, hcreated,
      hentries⟩ := ih (fun call hcall => hreads call (List.mem_cons_of_mem _ hcall)) hwrites hsame
        hwriter'
    refine ⟨?_, hread, hwrite, growth.then all, growth.then read, written, ?_, ?_, hwriteLog, ?_, ?_⟩
    · simp only [replies, hresult, hnotes]
      exact .left hreplies
    · rw [calling, hall, hlog, KeyLog.grownBy_grownBy]
    · rw [calling, hreadLog, hlog', KeyLog.grownBy_grownBy]
    · simp only [KeyLog.Growth.then, hcreated, Bool.or_assoc]
    · simp only [KeyLog.Growth.then, List.append_assoc]
      exact hentries.append_left _
  | @right call reads writes calls h ih =>
    obtain ⟨hresult, hnotes, hsame, hother, growth, hlog, hlog'⟩ :=
      alike_act (hwrites call List.mem_cons_self) hwriter
    have hreader' : Alike .read (call.act connection).state reader :=
      ⟨(hother .read (by simp)).1.trans hreader.1, (hother .read (by simp)).2.trans hreader.2⟩
    obtain ⟨hreplies, hread, hwrite, all, read, written, hall, hreadLog, hwriteLog, hcreated,
      hentries⟩ := ih hreads (fun call hcall => hwrites call (List.mem_cons_of_mem _ hcall))
        hreader' hsame
    refine ⟨?_, hread, hwrite, growth.then all, read, growth.then written, ?_, hreadLog, ?_, ?_, ?_⟩
    · simp only [replies, hresult, hnotes]
      exact .right hreplies
    · rw [calling, hall, hlog, KeyLog.grownBy_grownBy]
    · rw [calling, hwriteLog, hlog', KeyLog.grownBy_grownBy]
    · simp only [KeyLog.Growth.then, hcreated, Bool.or_left_comm]
    · simp only [KeyLog.Growth.then]
      exact (hentries.append_left _).trans (List.perm_append_comm_assoc _ _ _)

/-- The two directions of a connection are independent.  Take any calls for
reading and any calls for writing, which may fail.  In every interleaving each
call gives back what it gives back without the calls for the other direction,
and any two interleavings leave the same transport, the same wire and, up to
their order, the same lines in the key log. -/
theorem directions_independent (connection : Connection) {reads writes calls calls' : List Call}
    (hreads : ∀ call ∈ reads, call.direction? = some .read)
    (hwrites : ∀ call ∈ writes, call.direction? = some .write)
    (h : Interleaves reads writes calls) (h' : Interleaves reads writes calls') :
    Interleaves (replies connection reads) (replies connection writes) (replies connection calls) ∧
      Interleaves (replies connection reads) (replies connection writes)
        (replies connection calls') ∧
      (calling connection calls').transport = (calling connection calls).transport ∧
      (calling connection calls').wire = (calling connection calls).wire ∧
      (calling connection calls').log.created = (calling connection calls).log.created ∧
      (calling connection calls').log.entries.Perm (calling connection calls).log.entries ∧
      (calling connection calls').log.fault = (calling connection calls).log.fault := by
  obtain ⟨hreplies, hread, hwrite, all, read, written, hlog, hreadLog, hwriteLog, hcreated,
    hentries⟩ := alike_calling hreads hwrites h (.refl .read connection) (.refl .write connection)
  obtain ⟨hreplies', hread', hwrite', all', read', written', hlog', hreadLog', hwriteLog', hcreated',
    hentries'⟩ := alike_calling hreads hwrites h' (.refl .read connection) (.refl .write connection)
  have halves : ∀ direction, (calling connection calls').half direction =
      (calling connection calls).half direction := by
    intro direction
    cases direction with
    | read => exact hread'.2.trans hread.2.symm
    | write => exact hwrite'.2.trans hwrite.2.symm
  obtain ⟨htransport, hwire, hfault⟩ :=
    Connection.eq_of_halves (hread'.1.trans hread.1.symm) halves
  -- What each sequence alone adds to the key log is the same for both interleavings.
  have hreadGrown := hreadLog'.symm.trans hreadLog
  have hwriteGrown := hwriteLog'.symm.trans hwriteLog
  simp only [KeyLog.grownBy, KeyLog.mk.injEq, and_true] at hreadGrown hwriteGrown
  refine ⟨hreplies, hreplies', htransport, hwire, ?_, ?_, hfault⟩
  · rw [hlog', hlog]
    simp only [KeyLog.grownBy, hcreated', hcreated, ← Bool.or_assoc, hreadGrown.1]
    rw [Bool.or_right_comm, hwriteGrown.1, Bool.or_right_comm]
  · rw [hlog', hlog]
    simp only [KeyLog.grownBy]
    rw [List.append_cancel_left hreadGrown.2, List.append_cancel_left hwriteGrown.2] at hentries'
    exact (hentries'.trans hentries.symm).append_left _

/-- Both directions get a secret that is logged, a record is sent, and a read fails since the
bytes run out.  The calls take turns, or all writing comes first. -/
theorem directions_independent_of_turns :
    let connection : Connection :=
      { transport := { side := .client, logs := true, random := [7] }
        wire := { incoming := { queue := [72, 2, 0, 0, 0, 0, 0, 2, 1] } } }
    let reads : List Call := [.install .read (.number 2) 0 (.bytes [1]), .skip true, .read]
    let writes : List Call := [.install .write (.number 2) 0 (.bytes [2]), .write (.number 22) [5]]
    let calls : List Call :=
      [.install .read (.number 2) 0 (.bytes [1]), .install .write (.number 2) 0 (.bytes [2]),
        .skip true, .write (.number 22) [5], .read]
    let calls' : List Call :=
      [.install .write (.number 2) 0 (.bytes [2]), .write (.number 22) [5],
        .install .read (.number 2) 0 (.bytes [1]), .skip true, .read]
    (∀ call ∈ reads, call.direction? = some .read) ∧
      (∀ call ∈ writes, call.direction? = some .write) ∧
      Interleaves reads writes calls ∧ Interleaves reads writes calls' ∧
      Interleaves (replies connection reads) (replies connection writes)
        (replies connection calls) ∧
      Interleaves (replies connection reads) (replies connection writes)
        (replies connection calls') ∧
      (calling connection calls').transport = (calling connection calls).transport ∧
      (calling connection calls').wire = (calling connection calls).wire ∧
      (calling connection calls').log.created = (calling connection calls).log.created ∧
      (calling connection calls').log.entries.Perm (calling connection calls).log.entries ∧
      (calling connection calls').log.fault = (calling connection calls).log.fault := by
  intro connection reads writes calls calls'
  have hreads : ∀ call ∈ reads, call.direction? = some .read := by decide
  have hwrites : ∀ call ∈ writes, call.direction? = some .write := by decide
  have h : Interleaves reads writes calls := .left (.right (.left (.right (.left .nil))))
  have h' : Interleaves reads writes calls' := .right (.right (.left (.left (.left .nil))))
  exact ⟨hreads, hwrites, h, h', directions_independent connection hreads hwrites h h'⟩

end Pair

end RecordLayer
