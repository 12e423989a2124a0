import Mathlib.Tactic.Common
import RecordLayer.Connection

/-!
# Gathering bytes from a wire

A reader asks the wire for the bytes that are missing, and asks again for
what is still missing after each piece.  This module shows that the pieces do
not matter.

`Port.Steady` says what is assumed of the reading end: no read fails, and a
read takes at least one byte when there is one.  Under it there are two cases:

* `Connection.readOn_gather`: enough bytes are there.  Exactly the missing
  ones are taken, and the part of the record under way is complete.
* `Connection.readOn_runsOut`: the bytes run out.  All of them are taken, and
  the read fails as `Wire.ending` and the part under way say.

`Wire.leaving` is the wire after some reads, with what they left unread.
-/

namespace RecordLayer

/-! ## Steady ports -/

/-- No read fails, and a read takes at least one byte when there is one. -/
structure Port.Steady (port : Port) : Prop where
  readFault : port.readFault = none
  limit : port.limit ≠ some 0
  pieces : 0 ∉ port.pieces

theorem Port.steady_default : Port.Steady {} :=
  ⟨rfl, by simp, by simp⟩

namespace Wire

/-- The wire with only `unread` left to read, after some reads. -/
def leaving (wire : Wire) (unread : Bytes) (reads : Nat) : Wire :=
  { wire with
    incoming := { wire.incoming with queue := unread }
    port := { wire.port with pieces := wire.port.pieces.drop reads } }

@[simp] theorem queue_leaving (wire : Wire) (unread : Bytes) (reads : Nat) :
    (wire.leaving unread reads).incoming.queue = unread := rfl

@[simp] theorem leaving_leaving (wire : Wire) (unread unread' : Bytes) (reads reads' : Nat) :
    (wire.leaving unread reads).leaving unread' reads' = wire.leaving unread' (reads + reads') := by
  simp [leaving, List.drop_drop]

@[simp] theorem leaving_queue (wire : Wire) : wire.leaving wire.incoming.queue 0 = wire := rfl

theorem steady_leaving {wire : Wire} (steady : wire.port.Steady) (unread : Bytes)
    (reads : Nat) : (wire.leaving unread reads).port.Steady :=
  ⟨steady.readFault, steady.limit, fun h => steady.pieces (List.mem_of_mem_drop h)⟩

/-- How a read fails when there are no bytes left. -/
def ending (wire : Wire) : StreamError :=
  if wire.incoming.writerClosed then .ended else .wouldBlock

@[simp] theorem ending_leaving (wire : Wire) (unread : Bytes) (reads : Nat) :
    (wire.leaving unread reads).ending = wire.ending := rfl

/-- A steady port allows at least one byte, and no more than are asked for. -/
theorem allowance_of_steady {wire : Wire} (steady : wire.port.Steady) {count : Nat}
    (hcount : 0 < count) : 0 < wire.allowance count ∧ wire.allowance count ≤ count := by
  cases hpieces : wire.port.pieces with
  | cons piece pieces =>
    have hpiece : piece ≠ 0 := fun h => steady.pieces (by rw [hpieces, h]; simp)
    simp only [allowance, hpieces]
    omega
  | nil =>
    cases hlimit : wire.port.limit with
    | none =>
      simp only [allowance, hpieces, hlimit]
      omega
    | some limit =>
      have hzero : limit ≠ 0 := fun h => steady.limit (by rw [hlimit, h])
      simp only [allowance, hpieces, hlimit]
      omega

/-- A read with bytes there takes some of them. -/
theorem receive_of_steady {wire : Wire} (hopen : wire.incoming.readerClosed = false)
    (steady : wire.port.Steady) {count : Nat} (hcount : 0 < count)
    (hqueue : wire.incoming.queue ≠ []) :
    ∃ taken, 0 < taken ∧ taken ≤ count ∧ taken ≤ wire.incoming.queue.length ∧
      wire.receive count = (.ok (wire.incoming.queue.take taken),
        wire.leaving (wire.incoming.queue.drop taken) 1) := by
  obtain ⟨hpos, hle⟩ := allowance_of_steady steady hcount
  have hlength := List.length_pos_iff.2 hqueue
  refine ⟨min (wire.allowance count) wire.incoming.queue.length, by omega, by omega, by omega, ?_⟩
  have hempty : wire.incoming.queue.isEmpty = false := by simpa using hqueue
  have hport : { wire.port with readFault := none } = wire.port := by
    rw [← steady.readFault]
  simp only [receive, hopen, steady.readFault, Fault.strike, hempty, Bool.false_and,
    Bool.false_eq_true, if_false, List.splitAt_eq, leaving, List.drop_one, hport,
    ← List.take_eq_take_min, ← List.drop_eq_drop_min]

/-- A read with no bytes there fails or meets the end of the stream. -/
theorem receive_of_empty {wire : Wire} (hopen : wire.incoming.readerClosed = false)
    (steady : wire.port.Steady) (count : Nat) (hqueue : wire.incoming.queue = []) :
    wire.receive count =
      if wire.incoming.writerClosed then (.ok [], wire.leaving [] 1)
      else (.error .wouldBlock, wire) := by
  have hport : { wire.port with readFault := none } = wire.port := by
    rw [← steady.readFault]
  cases hclosed : wire.incoming.writerClosed with
  | true =>
    simp [receive, hopen, steady.readFault, Fault.strike, hclosed, leaving, hport, hqueue]
  | false =>
    simp [receive, hopen, steady.readFault, Fault.strike, hclosed, hport, hqueue]

end Wire

/-! ## The part of a record under way -/

/-- What has come of the part under way once its last bytes are there. -/
def Intake.complete (intake : Intake) (bytes : Bytes) : Result Arrival :=
  match intake.header with
  | some header => .ok (.whole header (intake.arrived.reverse ++ bytes))
  | none => (Header.decode (intake.arrived.reverse ++ bytes)).map Intake.startBody

namespace Intake

/-- The part under way with some more of its bytes. -/
def grown (intake : Intake) (chunk : Bytes) : Intake :=
  { intake with
    arrived := chunk.reverseAux intake.arrived
    missing := intake.missing - chunk.length }

theorem feed_of_lt {intake : Intake} {chunk : Bytes} (h : chunk.length < intake.missing) :
    intake.feed chunk = .ok (.awaiting (intake.grown chunk)) := by
  unfold feed
  exact if_pos h

theorem feed_of_le {intake : Intake} {chunk : Bytes} (h : intake.missing ≤ chunk.length) :
    intake.feed chunk = intake.complete chunk := by
  have hreverse : (chunk.reverseAux intake.arrived).reverse = intake.arrived.reverse ++ chunk := by
    simp [List.reverseAux_eq]
  have hwhole : intake.feed chunk = match intake.header with
      | some header => .ok (.whole header (chunk.reverseAux intake.arrived).reverse)
      | none => (Header.decode (chunk.reverseAux intake.arrived).reverse).map startBody :=
    if_neg (Nat.not_lt.2 h)
  rw [hwhole, hreverse]
  rfl

theorem complete_grown (intake : Intake) (chunk bytes : Bytes) :
    (intake.grown chunk).complete bytes = intake.complete (chunk ++ bytes) := by
  simp [complete, grown, List.reverseAux_eq]

end Intake

/-! ## Reading on -/

namespace Connection

/-- The connection with only `unread` left to read, after some reads. -/
def leaving (connection : Connection) (unread : Bytes) (reads : Nat) : Connection :=
  { connection with wire := connection.wire.leaving unread reads }

@[simp] theorem wire_leaving (connection : Connection) (unread : Bytes) (reads : Nat) :
    (connection.leaving unread reads).wire = connection.wire.leaving unread reads := rfl

@[simp] theorem transport_leaving (connection : Connection) (unread : Bytes) (reads : Nat) :
    (connection.leaving unread reads).transport = connection.transport := rfl

@[simp] theorem leaving_leaving (connection : Connection) (unread unread' : Bytes)
    (reads reads' : Nat) :
    (connection.leaving unread reads).leaving unread' reads' =
      connection.leaving unread' (reads + reads') := by
  simp [leaving]

theorem onTransport_apply {α : Type} (action : Act Transport α) (connection : Connection) :
    onTransport action connection =
      { result := (action connection.transport).result
        state := { connection with transport := (action connection.transport).state }
        notes := (action connection.transport).notes } := rfl

/-- Nothing is lost in the recursion: it goes by what one read gives. -/
theorem readOn_eq (intake : Intake) (before : List Note) (connection : Connection) :
    readOn intake before connection =
      match receive intake connection with
      | { result := .error e, state, notes } =>
        { result := .error e, state, notes := before ++ notes }
      | { result := .ok (.inr delivery), state, notes } =>
        { result := .ok delivery, state, notes := before ++ notes }
      | { result := .ok (.inl intake'), state, notes } =>
        readOn intake' (before ++ notes) state := by
  rw [readOn]
  split
  next h => rw [h]
  next h => rw [h]
  next h => rw [h]

/-- What follows when the part under way is complete: the body of the record
is gathered, or a decision on the record is made. -/
def onArrival (arrival : Result Arrival) (before : List Note) (connection : Connection) :
    Outcome Connection Delivery :=
  match arrival with
  | .error e => { result := .error e, state := connection, notes := before }
  | .ok (.awaiting intake) => readOn intake before connection
  | .ok (.whole header body) =>
    match onTransport (Transport.accept header body) connection with
    | { result := .error e, state, notes } =>
      { result := .error e, state, notes := before ++ notes }
    | { result := .ok none, state, notes } => readOn {} (before ++ notes) state
    | { result := .ok (some delivery), state, notes } =>
      { result := .ok delivery, state, notes := before ++ notes }

/-- One read that takes less than what is missing. -/
theorem readOn_of_lt {intake : Intake} {before : List Note} {connection : Connection}
    {chunk : Bytes} {wire : Wire}
    (hreceive : connection.wire.receive intake.missing = (.ok chunk, wire))
    (hne : chunk ≠ []) (hlt : chunk.length < intake.missing) :
    readOn intake before connection =
      readOn (intake.grown chunk) before { connection with wire } := by
  have hstep : receive intake connection =
      { result := .ok (.inl (intake.grown chunk)), state := { connection with wire } } := by
    obtain ⟨byte, chunk, rfl⟩ := List.exists_cons_of_ne_nil hne
    simp only [receive, hreceive, onTransport_apply, Transport.takeIn, Act.bind_apply,
      Act.ofResult_apply, Intake.feed_of_lt hlt, Act.pure_apply, List.append_nil]
  rw [readOn_eq, hstep]
  simp only [List.append_nil]

/-- One read that takes all of what is missing. -/
theorem readOn_of_le {intake : Intake} {before : List Note} {connection : Connection}
    {chunk : Bytes} {wire : Wire}
    (hreceive : connection.wire.receive intake.missing = (.ok chunk, wire))
    (hne : chunk ≠ []) (hle : intake.missing ≤ chunk.length) :
    readOn intake before connection =
      onArrival (intake.complete chunk) before { connection with wire } := by
  obtain ⟨byte, chunk, rfl⟩ := List.exists_cons_of_ne_nil hne
  rw [readOn_eq]
  simp only [receive, hreceive, onTransport_apply, Transport.takeIn, Act.bind_apply,
    Act.ofResult_apply, Intake.feed_of_le hle]
  cases intake.complete (byte :: chunk) with
  | error e => simp [onArrival]
  | ok arrival =>
    cases arrival with
    | awaiting intake => simp [onArrival]
    | whole header body =>
      simp only [onArrival, onTransport_apply, Act.bind_apply]
      rcases Transport.accept header body connection.transport with ⟨_ | _ | delivery, state, notes⟩
      all_goals simp

/-- With enough bytes there, exactly the missing ones are taken. -/
theorem readOn_gather (before : List Note) {intake : Intake} {connection : Connection}
    (hopen : connection.wire.incoming.readerClosed = false)
    (steady : connection.wire.port.Steady) (hmissing : 0 < intake.missing)
    (henough : intake.missing ≤ connection.wire.incoming.queue.length) :
    ∃ reads, readOn intake before connection =
      onArrival (intake.complete (connection.wire.incoming.queue.take intake.missing)) before
        (connection.leaving (connection.wire.incoming.queue.drop intake.missing) reads) := by
  -- induction on what is missing: a read takes all of it or makes it less
  induction hn : intake.missing using Nat.strongRecOn generalizing intake connection with
  | ind n ih =>
    subst hn
    have hqueue : connection.wire.incoming.queue ≠ [] := by
      intro h
      rw [h] at henough
      simp at henough
      omega
    obtain ⟨taken, hpos, hle, hthere, hreceive⟩ :=
      Wire.receive_of_steady hopen steady hmissing hqueue
    have hlength : (connection.wire.incoming.queue.take taken).length = taken := by
      rw [List.length_take]
      omega
    have hne : connection.wire.incoming.queue.take taken ≠ [] := by
      intro h
      rw [h] at hlength
      simp at hlength
      omega
    rcases Nat.lt_or_eq_of_le hle with hlt | heq
    · rw [readOn_of_lt hreceive hne (by omega)]
      have hleft : (connection.wire.incoming.queue.drop taken).length =
          connection.wire.incoming.queue.length - taken := List.length_drop
      obtain ⟨reads, hrest⟩ := @ih (intake.missing - taken) (by omega)
        (intake.grown (connection.wire.incoming.queue.take taken))
        (connection.leaving (connection.wire.incoming.queue.drop taken) 1) hopen
        (Wire.steady_leaving steady _ 1) (by simp only [Intake.grown]; omega)
        (by simp only [Intake.grown, wire_leaving, Wire.queue_leaving]; omega)
        (by simp only [Intake.grown]; omega)
      refine ⟨1 + reads, ?_⟩
      have hmore : intake.missing = taken + (intake.missing - taken) := by omega
      show readOn _ before (connection.leaving _ 1) = _
      rw [hrest, Intake.complete_grown, leaving_leaving, wire_leaving, Wire.queue_leaving,
        List.drop_drop, ← List.take_add, ← hmore]
    · rw [readOn_of_le hreceive hne (by omega), heq]
      exact ⟨1, rfl⟩

/-- With too few bytes there, all of them are taken and the read fails. -/
theorem readOn_runsOut (before : List Note) {intake : Intake} {connection : Connection}
    (hopen : connection.wire.incoming.readerClosed = false)
    (steady : connection.wire.port.Steady)
    (hshort : connection.wire.incoming.queue.length < intake.missing) :
    ∃ reads, readOn intake before connection =
      { result := .error (intake.interrupted connection.wire.ending)
        state := connection.leaving [] reads
        notes := before } := by
  induction hn : connection.wire.incoming.queue.length using Nat.strongRecOn
    generalizing intake connection with
  | ind n ih =>
    subst hn
    by_cases hqueue : connection.wire.incoming.queue = []
    · have hreceive := Wire.receive_of_empty hopen steady intake.missing hqueue
      rw [readOn_eq]
      cases hclosed : connection.wire.incoming.writerClosed with
      | true =>
        rw [hclosed, if_pos rfl] at hreceive
        refine ⟨1, ?_⟩
        simp [receive, hreceive, onTransport_apply, Transport.takeIn, Wire.ending, hclosed,
          leaving]
      | false =>
        rw [hclosed, if_neg (by simp)] at hreceive
        refine ⟨0, ?_⟩
        simp [receive, hreceive, onTransport_apply, Transport.takeIn, Wire.ending, hclosed,
          leaving, ← hqueue]
    · obtain ⟨taken, hpos, hle, hthere, hreceive⟩ :=
        Wire.receive_of_steady hopen steady (Nat.zero_lt_of_lt hshort) hqueue
      have hcount := List.length_pos_iff.2 hqueue
      have hlength : 0 < (connection.wire.incoming.queue.take taken).length := by
        rw [List.length_take]
        omega
      have hlt : (connection.wire.incoming.queue.take taken).length < intake.missing := by
        rw [List.length_take]
        omega
      rw [readOn_of_lt hreceive (List.length_pos_iff.1 hlength) hlt]
      have hleft : (connection.wire.incoming.queue.drop taken).length =
          connection.wire.incoming.queue.length - taken := List.length_drop
      obtain ⟨reads, hrest⟩ := @ih (connection.wire.incoming.queue.length - taken) (by omega)
        (intake.grown (connection.wire.incoming.queue.take taken))
        (connection.leaving (connection.wire.incoming.queue.drop taken) 1) hopen
        (Wire.steady_leaving steady _ 1)
        (by simp only [Intake.grown, wire_leaving, Wire.queue_leaving, List.length_take]; omega)
        hleft
      refine ⟨1 + reads, ?_⟩
      show readOn _ before (connection.leaving _ 1) = _
      rw [hrest, leaving_leaving]
      rfl

end Connection

end RecordLayer
