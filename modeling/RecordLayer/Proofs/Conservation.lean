import Mathlib.Tactic.Common
import RecordLayer.Pair
import RecordLayer.Proofs.Installing
import RecordLayer.Proofs.Queue
import RecordLayer.Proofs.Writing

/-!
# No record is lost

A run of calls on the two transports of a pair, in any order and with any
arguments, and what it does to the records in each direction.

`Pair.events` is the history of a run.  From it are read off, for a direction
of the link, the records that were written (`Pair.written`), the headers of
the records that were taken (`Pair.taken`), the bodies of those that were
delivered (`Pair.delivered`), and how many were refused (`Pair.refusals`).

`Pair.Ledger` is the account of a run in one direction: what was in the queue
or was written since is what was taken and what still waits, in this order.
`Pair.ledger_perform` gives the account of one call, `Pair.ledger_trans` puts
two accounts together, and `Pair.ledger_events` is the account of a run.
-/

namespace RecordLayer

namespace Pair

/-! ## Histories -/

/-- Two fresh transports on an empty link, of which the client's may log. -/
def fresh (logs : Bool) (random : Bytes) (log : KeyLog) (clientPort serverPort : Port) : Pair :=
  { client := { side := .client, logs, random }
    server := { side := .server }
    link := { clientPort, serverPort }
    log }

/-- One call of a run: what it was made on, and what it left behind. -/
structure Event where
  before : Pair
  side : Side
  call : Call
  outcome : Outcome Pair Answer

/-- The history of a run of calls. -/
def events : Pair → List (Side × Call) → List Event
  | _, [] => []
  | pair, (side, call) :: calls =>
    { before := pair, side, call, outcome := perform side call pair } ::
      events (perform side call pair).state calls

/-- The pair after a run of calls. -/
def after : Pair → List (Side × Call) → Pair
  | pair, [] => pair
  | pair, (side, call) :: calls => after (perform side call pair).state calls

/-- The record that a call has written, if it is a write of `writer` that succeeded. -/
def Event.written? (event : Event) (writer : Side) : Option Record :=
  match event.call, event.outcome.result with
  | .write type data, .ok _ =>
    if event.side = writer then
      (RecordType.sendable? type).map fun type =>
        (event.before.transport writer).write.stamp type data
    else none
  | _, _ => none

/-- The headers of the records that a call has taken off the wire, if it is a
read of `reader`. -/
def Event.taken (event : Event) (reader : Side) : List Header :=
  match event.call with
  | .read => if event.side = reader then event.outcome.notes.filterMap Note.taken? else []
  | _ => []

/-- The body of the record that a call has delivered, if it is a read of
`reader` that succeeded. -/
def Event.delivered? (event : Event) (reader : Side) : Option Bytes :=
  match event.call, event.outcome.result with
  | .read, .ok (.delivery delivery) =>
    if event.side = reader then
      some ((event.before.transport reader).read.secret ++ delivery.data)
    else none
  | _, _ => none

/-- Whether a call is a read of `reader` that has refused a record. -/
def Event.refuses (event : Event) (reader : Side) : Bool :=
  match event.call, event.outcome.result with
  | .read, .error cause => event.side = reader && cause.refusesRecord
  | _, _ => false

/-- The records that `writer` has written, in order. -/
def written (history : List Event) (writer : Side) : List Record :=
  history.filterMap (·.written? writer)

/-- The headers of the records that `reader` has taken off the wire, in order. -/
def taken (history : List Event) (reader : Side) : List Header :=
  history.flatMap (·.taken reader)

/-- The bodies of the records that `reader` was delivered, in order. -/
def delivered (history : List Event) (reader : Side) : List Bytes :=
  history.filterMap (·.delivered? reader)

/-- How many reads of `reader` have refused a record. -/
def refusals (history : List Event) (reader : Side) : Nat :=
  history.countP (·.refuses reader)

/-- A call that does not tamper with the stream: nothing but records is
written to it, no read is made to fail, and a read takes at least one byte. -/
def Call.Orderly : Call → Prop
  | .raw _ => False
  | .limit (some 0) => False
  | .fault .read (some _) => False
  | _ => True

/-! ## What one call does to a connection -/

/-- A call that neither writes nor reads: both queues and all counters stay. -/
structure Quiet (before after : Connection) : Prop where
  incoming : after.wire.incoming.queue = before.wire.incoming.queue
  outgoing : after.wire.outgoing.queue = before.wire.outgoing.queue
  sent : after.transport.sent = before.transport.sent
  received : after.transport.received = before.transport.received
  skipped : after.transport.skipped = before.transport.skipped
  steady : before.wire.port.Steady → after.wire.port.Steady

theorem Quiet.refl (connection : Connection) : Quiet connection connection :=
  ⟨rfl, rfl, rfl, rfl, rfl, id⟩

/-- A change of an epoch leaves the counters alone. -/
theorem counters_setEpoch (transport : Transport) (direction : Direction) (epoch : Epoch) :
    (transport.setEpoch direction epoch).sent = transport.sent ∧
      (transport.setEpoch direction epoch).received = transport.received ∧
      (transport.setEpoch direction epoch).skipped = transport.skipped := by
  cases direction <;> exact ⟨rfl, rfl, rfl⟩

/-- An installation is quiet, also one that fails. -/
theorem quiet_install (direction : Direction) (level : Code) (suite : Int) (secret : Secret)
    (connection : Connection) :
    Quiet connection
      (Connection.onEndpoint (Endpoint.install direction level suite secret) connection).state := by
  simp only [Connection.onEndpoint, Act.focus_apply, Endpoint.install_eq]
  generalize Epoch.install level suite secret (connection.transport.epoch direction) = installed
  obtain ⟨result, epoch, notes⟩ := installed
  obtain ⟨hsent, hreceived, hskipped⟩ := counters_setEpoch connection.transport direction epoch
  cases result with
  | error cause => exact ⟨rfl, rfl, hsent, hreceived, hskipped, id⟩
  | ok =>
    dsimp only
    have htransport := Endpoint.transport_report direction level epoch.secret
      (connection.toEndpoint.withEpoch direction epoch)
    refine ⟨rfl, rfl, ?_, ?_, ?_, id⟩
    · rw [htransport]; exact hsent
    · rw [htransport]; exact hreceived
    · rw [htransport]; exact hskipped

/-- A change of a level is quiet, also one that fails. -/
theorem quiet_setLevel (direction : Direction) (level : Code) (connection : Connection) :
    Quiet connection
      (Connection.onEndpoint (Endpoint.setLevel direction level) connection).state := by
  simp only [Connection.onEndpoint, Act.focus_apply, Endpoint.setLevel, Act.bind_apply,
    Act.get_apply, Act.ofResult_apply]
  cases (connection.transport.epoch direction).setLevel level with
  | error cause => exact Quiet.refl connection
  | ok epoch =>
    obtain ⟨hsent, hreceived, hskipped⟩ :=
      counters_setEpoch connection.transport direction epoch
    exact ⟨rfl, rfl, hsent, hreceived, hskipped, id⟩

/-- What an answer is made of does not matter for what is left behind. -/
theorem answerNothing_apply (action : Act Connection Unit) (connection : Connection) :
    answerNothing action connection =
      { result := (action connection).result.map fun _ => .nothing
        state := (action connection).state
        notes := (action connection).notes } := by
  simp only [answerNothing, Act.bind_apply]
  rcases action connection with ⟨_ | _, state, notes⟩
  · rfl
  · simp [Except.map]

/-- A read as a call. -/
theorem act_read (connection : Connection) :
    Call.act .read connection =
      { result := (Connection.readRecord connection).result.map .delivery
        state := (Connection.readRecord connection).state
        notes := (Connection.readRecord connection).notes } := by
  simp only [Call.act, Act.bind_apply]
  rcases Connection.readRecord connection with ⟨_ | _, state, notes⟩
  · rfl
  · simp [Except.map]

/-- A write as a call. -/
theorem act_write (type : Code) (data : Bytes) (connection : Connection) :
    Call.act (.write type data) connection =
      { result := (Connection.writeRecord type data connection).result.map .count
        state := (Connection.writeRecord type data connection).state
        notes := (Connection.writeRecord type data connection).notes } := by
  simp only [Call.act, Act.bind_apply]
  generalize Connection.writeRecord type data connection = outcome
  obtain ⟨_ | _, state, notes⟩ := outcome
  · rfl
  · simp [Except.map]

/-- A call that neither writes nor reads is quiet. -/
theorem quiet_act {call : Call} (horderly : call.Orderly)
    (hwrite : ∀ type data, call ≠ .write type data) (hread : call ≠ .read)
    (connection : Connection) : Quiet connection (call.act connection).state := by
  cases call with
  | install direction level suite secret =>
    simp only [Call.act, answerNothing_apply]
    exact quiet_install direction level suite secret connection
  | setLevel direction level =>
    simp only [Call.act, answerNothing_apply]
    exact quiet_setLevel direction level connection
  | assign direction assignment =>
    obtain ⟨hsent, hreceived, hskipped⟩ := counters_setEpoch connection.transport direction
      (assignment.apply (connection.transport.epoch direction))
    exact ⟨rfl, rfl, hsent, hreceived, hskipped, id⟩
  | skip value => exact ⟨rfl, rfl, rfl, rfl, rfl, id⟩
  | write type data => exact absurd rfl (hwrite type data)
  | read => exact absurd rfl hread
  | raw bytes => exact horderly.elim
  | unstructured method => exact Quiet.refl connection
  | close => exact ⟨rfl, rfl, rfl, rfl, rfl, id⟩
  | limit count =>
    refine ⟨rfl, rfl, rfl, rfl, rfl, fun steady => ⟨steady.readFault, ?_, steady.pieces⟩⟩
    rintro rfl
    exact horderly
  | fault direction f =>
    cases direction with
    | read =>
      cases f with
      | some fault => exact horderly.elim
      | none =>
        exact ⟨rfl, rfl, rfl, rfl, rfl, fun steady => ⟨rfl, steady.limit, steady.pieces⟩⟩
    | write =>
      exact ⟨rfl, rfl, rfl, rfl, rfl, fun steady => ⟨steady.readFault, steady.limit, steady.pieces⟩⟩

/-- A write that fails is quiet. -/
theorem quiet_write_of_error {type : Code} {data : Bytes} {connection : Connection} {cause : Error}
    (h : (Connection.writeRecord type data connection).result = .error cause) :
    Quiet connection (Connection.writeRecord type data connection).state := by
  have hsends := Connection.sends_writeRecord type data connection
  generalize Connection.writeRecord type data connection = outcome at h hsends ⊢
  cases hsends with
  | refused cause => exact Quiet.refl connection
  | @failed bytes error wire hsend =>
    have houtgoing := Wire.outgoing_send_of_error hsend
    have hincoming := Wire.incoming_send connection.wire bytes
    obtain ⟨hfault, hlimit, hpieces⟩ := Wire.reading_port_send connection.wire bytes
    rw [hsend] at hincoming hfault hlimit hpieces
    refine ⟨by rw [← hincoming], by rw [← houtgoing], rfl, rfl, rfl, fun steady => ?_⟩
    exact ⟨hfault.trans steady.readFault, fun h => steady.limit (hlimit.symm.trans h),
      fun h => steady.pieces (hpieces ▸ h)⟩
  | sent => cases h

/-- A write that succeeds has put one record into the queue and counted it. -/
theorem write_of_ok {type : Code} {data : Bytes} {connection : Connection} {count : Nat}
    (h : (Connection.writeRecord type data connection).result = .ok count) :
    ∃ sendable wire, RecordType.sendable? type = some sendable ∧
      (connection.transport.write.stamp sendable data).Fits ∧
      (Connection.writeRecord type data connection).state = connection.counted wire ∧
      wire.incoming = connection.wire.incoming ∧
      wire.outgoing.queue = connection.wire.outgoing.queue ++
        (connection.transport.write.stamp sendable data).bytes ∧
      (connection.wire.port.Steady → wire.port.Steady) := by
  have hsends := Connection.sends_writeRecord type data connection
  generalize Connection.writeRecord type data connection = outcome at h hsends ⊢
  cases hsends with
  | refused => cases h
  | failed => cases h
  | @sent sendable wire htype fits hsend =>
    have hincoming := Wire.incoming_send connection.wire
      (connection.transport.write.stamp sendable data).bytes
    obtain ⟨hfault, hlimit, hpieces⟩ := Wire.reading_port_send connection.wire
      (connection.transport.write.stamp sendable data).bytes
    rw [hsend] at hincoming hfault hlimit hpieces
    refine ⟨sendable, wire, htype, fits, rfl, hincoming, ?_, fun steady => ?_⟩
    · rw [Wire.outgoing_send_of_ok hsend]
    · exact ⟨hfault.trans steady.readFault, fun h => steady.limit (hlimit.symm.trans h),
        fun h => steady.pieces (hpieces ▸ h)⟩

/-- A read on an end that is closed fails and takes nothing. -/
theorem read_of_closed {connection : Connection}
    (hclosed : connection.wire.incoming.readerClosed = true) :
    Connection.readRecord connection =
      { result := .error (.stream .badDescriptor), state := connection } := by
  have hreceive : connection.wire.receive Header.size =
      (.error .badDescriptor, connection.wire) := by
    simp only [Wire.receive, hclosed, if_true]
  rw [Connection.readRecord, Connection.readOn_eq]
  simp only [Connection.receive, hreceive,
    Connection.onTransport_apply, Transport.takeIn, Act.fail_apply]
  rfl

/-- A read of a queue of records takes whole records from its front, and an
end that is closed takes none. -/
theorem read_of_records {connection : Connection} {queued : List Record}
    (fits : ∀ record ∈ queued, record.Fits) (steady : connection.wire.port.Steady)
    (hqueue : connection.wire.incoming.queue = Record.stream queued) :
    ∃ consumed waiting, queued = consumed ++ waiting ∧
      (Connection.readRecord connection).state.wire.outgoing = connection.wire.outgoing ∧
      (Connection.readRecord connection).state.wire.port.Steady ∧
      Transport.Account connection.transport
        { result := (Connection.readRecord connection).result
          transport := (Connection.readRecord connection).state.transport
          unread := (Connection.readRecord connection).state.wire.incoming.queue
          notes := (Connection.readRecord connection).notes } consumed waiting := by
  cases hclosed : connection.wire.incoming.readerClosed with
  | true =>
    rw [read_of_closed hclosed]
    exact ⟨[], queued, rfl, rfl, steady, hqueue, rfl, rfl, rfl, by rintro ⟨⟩, by rintro _ ⟨⟩⟩
  | false =>
    obtain ⟨reads, hread⟩ := Connection.readRecord_eq_reading hclosed steady
    obtain ⟨consumed, waiting, horder, account⟩ :=
      Transport.reading_records connection.wire.ending fits connection.transport
    rw [hread, hqueue]
    exact ⟨consumed, waiting, horder, rfl, Wire.steady_leaving steady _ _, account⟩

/-! ## What one side sees of a pair -/

@[simp] theorem outgoing_connection (pair : Pair) (side : Side) :
    (pair.connection side).wire.outgoing.queue = pair.link.unread side.peer := by
  cases side <;> rfl

@[simp] theorem unread_setConnection (pair : Pair) (side : Side) (connection : Connection) :
    (pair.setConnection side connection).link.unread side = connection.wire.incoming.queue := by
  cases side <;> rfl

@[simp] theorem unread_setConnection_peer (pair : Pair) (side : Side) (connection : Connection) :
    (pair.setConnection side connection).link.unread side.peer =
      connection.wire.outgoing.queue := by
  cases side <;> rfl

@[simp] theorem transport_setConnection (pair : Pair) (side : Side) (connection : Connection) :
    (pair.setConnection side connection).transport side = connection.transport := by
  cases side <;> rfl

@[simp] theorem transport_setConnection_peer (pair : Pair) (side : Side)
    (connection : Connection) :
    (pair.setConnection side connection).transport side.peer = pair.transport side.peer := by
  cases side <;> rfl

/-- Neither end of the link makes a read fail. -/
def Steady (pair : Pair) : Prop := ∀ side, (pair.link.wire side).port.Steady

theorem steady_setConnection {pair : Pair} (steady : pair.Steady) (side : Side)
    {connection : Connection} (h : connection.wire.port.Steady) :
    (pair.setConnection side connection).Steady := by
  have hclient := steady .client
  have hserver := steady .server
  cases side with
  | client =>
    intro side
    cases side with
    | client => exact h
    | server => exact hserver
  | server =>
    intro side
    cases side with
    | client => exact hclient
    | server => exact h

/-! ## Accounts -/

/-- The account of a history in the direction of `reader`: what was `queued`
or written since is what was `consumed` and what is `waiting`, in this order. -/
structure Ledger (before after : Pair) (history : List Event) (reader : Side)
    (queued consumed waiting : List Record) : Prop where
  order : queued ++ written history reader.peer = consumed ++ waiting
  fits : ∀ record ∈ waiting, record.Fits
  unread : after.link.unread reader = Record.stream waiting
  headers : taken history reader = consumed.map Record.header
  bodies : (delivered history reader).Sublist (consumed.map Record.body)
  sent : (after.transport reader.peer).sent =
    (before.transport reader.peer).sent + (written history reader.peer).length
  counters : (after.transport reader).received + (after.transport reader).skipped +
      refusals history reader =
    (before.transport reader).received + (before.transport reader).skipped + consumed.length
  whole : ∀ event ∈ history, event.side = reader → event.call = .read →
    event.outcome.result ≠ .error .bodyInterrupted

/-- The account of no call at all. -/
theorem ledger_nil {pair : Pair} {reader : Side} {queued : List Record}
    (fits : ∀ record ∈ queued, record.Fits) (hqueue : pair.link.unread reader = Record.stream queued) :
    Ledger pair pair [] reader queued [] queued where
  order := List.append_nil _
  fits := fits
  unread := hqueue
  headers := rfl
  bodies := List.Sublist.refl _
  sent := rfl
  counters := rfl
  whole := by simp

/-- Two accounts, one after the other. -/
theorem ledger_trans {first middle last : Pair} {history history' : List Event} {reader : Side}
    {queued consumed waiting consumed' waiting' : List Record}
    (h : Ledger first middle history reader queued consumed waiting)
    (h' : Ledger middle last history' reader waiting consumed' waiting') :
    Ledger first last (history ++ history') reader queued (consumed ++ consumed') waiting' where
  order := by
    have hwritten : written (history ++ history') reader.peer =
        written history reader.peer ++ written history' reader.peer := List.filterMap_append
    rw [hwritten, ← List.append_assoc, h.order, List.append_assoc, h'.order, List.append_assoc]
  fits := h'.fits
  unread := h'.unread
  headers := by
    have htaken : taken (history ++ history') reader =
        taken history reader ++ taken history' reader := List.flatMap_append
    rw [htaken, h.headers, h'.headers, List.map_append]
  bodies := by
    have hdelivered : delivered (history ++ history') reader =
        delivered history reader ++ delivered history' reader := List.filterMap_append
    rw [hdelivered, List.map_append]
    exact h.bodies.append h'.bodies
  sent := by
    have hwritten : written (history ++ history') reader.peer =
        written history reader.peer ++ written history' reader.peer := List.filterMap_append
    rw [h'.sent, h.sent, hwritten, List.length_append, Nat.add_assoc]
  counters := by
    have hrefusals : refusals (history ++ history') reader =
        refusals history reader + refusals history' reader := List.countP_append
    have := h.counters
    have := h'.counters
    rw [hrefusals, List.length_append]
    omega
  whole := by
    intro event hevent
    rcases List.mem_append.1 hevent with hevent | hevent
    · exact h.whole event hevent
    · exact h'.whole event hevent

/-! ## The account of one call -/

/-- The event of a call that is made now. -/
def event (pair : Pair) (side : Side) (call : Call) : Event :=
  { before := pair, side, call, outcome := perform side call pair }

theorem state_perform (pair : Pair) (side : Side) (call : Call) :
    (perform side call pair).state =
      pair.setConnection side (call.act (pair.connection side)).state := rfl

/-- Every call but a read has no part in what is taken, delivered or refused. -/
theorem event_of_ne_read {event : Event} (h : event.call ≠ .read) (reader : Side) :
    event.taken reader = [] ∧ event.delivered? reader = none ∧ event.refuses reader = false := by
  obtain ⟨before, side, call, outcome⟩ := event
  cases call with
  | read => exact absurd rfl h
  | _ => exact ⟨rfl, rfl, rfl⟩

/-- A call that sends and takes nothing leaves every account as it was. -/
theorem ledger_of_quiet {pair : Pair} {side : Side} {call : Call} {queued : List Record}
    {reader : Side} (quiet : Quiet (pair.connection side) (call.act (pair.connection side)).state)
    (hwritten : (pair.event side call).written? reader.peer = none) (hread : call ≠ .read)
    (fits : ∀ record ∈ queued, record.Fits)
    (hqueue : pair.link.unread reader = Record.stream queued) :
    Ledger pair (perform side call pair).state [pair.event side call] reader queued [] queued := by
  have hwritten' : written [pair.event side call] reader.peer = [] := by
    simp [written, hwritten]
  obtain ⟨htaken, hdelivered, hrefuses⟩ :=
    @event_of_ne_read (pair.event side call) hread reader
  have hheaders : taken [pair.event side call] reader = [] := by simp [taken, htaken]
  have hbodies : delivered [pair.event side call] reader = [] := by simp [delivered, hdelivered]
  have hrefusals : refusals [pair.event side call] reader = 0 := by simp [refusals, hrefuses]
  rw [state_perform]
  have hwhole : ∀ event ∈ [pair.event side call], event.side = reader → event.call = .read →
      event.outcome.result ≠ .error .bodyInterrupted := by
    intro event hevent _ hcall
    obtain rfl := List.mem_singleton.1 hevent
    exact absurd hcall hread
  rcases reader.eq_or_eq_peer side with rfl | rfl
  · refine ⟨?_, fits, ?_, hheaders, ?_, ?_, ?_, hwhole⟩
    · rw [hwritten', List.append_nil, List.nil_append]
    · rw [unread_setConnection, quiet.incoming]; exact hqueue
    · rw [hbodies]; exact List.nil_sublist _
    · rw [transport_setConnection_peer, hwritten', List.length_nil, Nat.add_zero]
    · rw [transport_setConnection, quiet.received, quiet.skipped, hrefusals]
      rfl
  · refine ⟨?_, fits, ?_, hheaders, ?_, ?_, ?_, hwhole⟩
    · rw [hwritten', List.append_nil, List.nil_append]
    · rw [unread_setConnection_peer, quiet.outgoing, outgoing_connection]; exact hqueue
    · rw [hbodies]; exact List.nil_sublist _
    · rw [Side.peer_peer, transport_setConnection, quiet.sent]
      rw [Side.peer_peer] at hwritten'
      rw [hwritten', List.length_nil, Nat.add_zero]
      rfl
    · rw [transport_setConnection_peer, hrefusals]
      rfl

/-- A write that succeeds puts one record behind those that wait. -/
theorem ledger_write {pair : Pair} {side : Side} {type : Code} {data : Bytes} {count : Nat}
    {queued : List Record} {reader : Side}
    (hresult : (Connection.writeRecord type data (pair.connection side)).result = .ok count)
    (fits : ∀ record ∈ queued, record.Fits)
    (hqueue : pair.link.unread reader = Record.stream queued) :
    ∃ waiting, Ledger pair (perform side (.write type data) pair).state
      [pair.event side (.write type data)] reader queued [] waiting := by
  obtain ⟨sendable, wire, htype, hfits, hstate, hincoming, houtgoing, -⟩ := write_of_ok hresult
  have hact := act_write type data (pair.connection side)
  rw [hresult, hstate] at hact
  have hwritten : ∀ writer, (pair.event side (.write type data)).written? writer =
      if side = writer then some ((pair.transport writer).write.stamp sendable data)
      else none := by
    intro writer
    have hok : (perform side (.write type data) pair).result = .ok (.count count) := by
      show (Call.act (.write type data) (pair.connection side)).result = _
      rw [hact]
      rfl
    simp only [Event.written?, event, hok, htype, Option.map_some]
  obtain ⟨htaken, hdelivered, hrefuses⟩ :=
    @event_of_ne_read (pair.event side (.write type data)) (by simp [event]) reader
  have hheaders : taken [pair.event side (.write type data)] reader = [] := by simp [taken, htaken]
  have hbodies : delivered [pair.event side (.write type data)] reader = [] := by
    simp [delivered, hdelivered]
  have hrefusals : refusals [pair.event side (.write type data)] reader = 0 := by
    simp [refusals, hrefuses]
  have hwhole : ∀ event ∈ [pair.event side (.write type data)], event.side = reader →
      event.call = .read → event.outcome.result ≠ .error .bodyInterrupted := by
    intro event hevent _ hcall
    obtain rfl := List.mem_singleton.1 hevent
    cases hcall
  rw [state_perform, hact]
  rcases reader.eq_or_eq_peer side with rfl | rfl
  · have hnone : written [pair.event reader (.write type data)] reader.peer = [] := by
      have hne : reader ≠ reader.peer := by cases reader <;> simp [Side.peer]
      simp [written, hwritten, hne]
    refine ⟨queued, ?_, fits, ?_, hheaders, ?_, ?_, ?_, hwhole⟩
    · rw [hnone, List.append_nil, List.nil_append]
    · rw [unread_setConnection]
      exact (congrArg Channel.queue hincoming).trans hqueue
    · rw [hbodies]; exact List.nil_sublist _
    · rw [transport_setConnection_peer, hnone, List.length_nil, Nat.add_zero]
    · rw [transport_setConnection, hrefusals]
      rfl
  · have hone : written [pair.event side (.write type data)] side =
        [(pair.transport side).write.stamp sendable data] := by
      simp [written, hwritten]
    refine ⟨queued ++ [(pair.transport side).write.stamp sendable data], ?_, ?_, ?_, hheaders, ?_,
      ?_, ?_, hwhole⟩
    · rw [Side.peer_peer, hone, List.nil_append]
    · intro record hrecord
      rcases List.mem_append.1 hrecord with hrecord | hrecord
      · exact fits record hrecord
      · obtain rfl := List.mem_singleton.1 hrecord
        exact hfits
    · rw [unread_setConnection_peer]
      show wire.outgoing.queue = _
      rw [houtgoing, outgoing_connection, hqueue, Record.stream_append, Record.stream_cons,
        Record.stream_nil, List.append_nil]
      rfl
    · rw [hbodies]; exact List.nil_sublist _
    · rw [Side.peer_peer, transport_setConnection, hone]
      rfl
    · rw [transport_setConnection_peer, hrefusals]
      rfl

/-- A read takes records from the front of its own queue. -/
theorem ledger_read {pair : Pair} {side : Side} {queued : List Record}
    (steady : (pair.link.wire side).port.Steady) (fits : ∀ record ∈ queued, record.Fits)
    (hqueue : pair.link.unread side = Record.stream queued) :
    ∃ consumed waiting, Ledger pair (perform side .read pair).state
      [pair.event side .read] side queued consumed waiting := by
  have hsteady : (pair.connection side).wire.port.Steady := steady
  obtain ⟨consumed, waiting, rfl, -, -, account⟩ :=
    @read_of_records (pair.connection side) queued fits hsteady hqueue
  refine ⟨consumed, waiting, ?_⟩
  have hperform : (perform side .read pair).result =
      (Connection.readRecord (pair.connection side)).result.map .delivery := by
    show (Call.act .read (pair.connection side)).result = _
    rw [act_read]
  have hnotes : (perform side .read pair).notes =
      (Connection.readRecord (pair.connection side)).notes := by
    show (Call.act .read (pair.connection side)).notes = _
    rw [act_read]
  have hwritten : written [pair.event side .read] side.peer = [] := by
    simp [written, event, Event.written?]
  have htaken : taken [pair.event side .read] side = consumed.map Record.header := by
    simp only [taken, List.flatMap_singleton, Event.taken, event, if_true, hnotes]
    exact account.headers
  rw [state_perform, act_read]
  refine ⟨?_, fun record h => fits record (List.mem_append_right _ h), ?_, htaken, ?_, ?_, ?_, ?_⟩
  · rw [hwritten, List.append_nil]
  · rw [unread_setConnection]
    exact account.unread
  · cases hresult : (Connection.readRecord (pair.connection side)).result with
    | error cause =>
      have hnone : delivered [pair.event side .read] side = [] := by
        simp [delivered, Event.delivered?, event, hperform, hresult, Except.map]
      rw [hnone]
      exact List.nil_sublist _
    | ok delivery =>
      obtain ⟨dropped, last, rfl, hlast⟩ := account.delivered delivery hresult
      have hone : delivered [pair.event side .read] side = [last.body] := by
        rw [hlast]
        simp [delivered, Event.delivered?, event, hperform, hresult, Except.map]
        rfl
      rw [hone, List.map_append]
      exact List.sublist_append_right _ _
  · rw [transport_setConnection_peer, hwritten, List.length_nil, Nat.add_zero]
  · have hrefusals : refusals [pair.event side .read] side =
        Transport.refusedBy (Connection.readRecord (pair.connection side)).result := by
      cases hresult : (Connection.readRecord (pair.connection side)).result with
      | error cause =>
        simp [refusals, Event.refuses, event, hperform, hresult, Except.map, Transport.refusedBy]
      | ok delivery =>
        simp [refusals, Event.refuses, event, hperform, hresult, Except.map, Transport.refusedBy]
    rw [transport_setConnection, hrefusals]
    exact account.counters
  · intro event hevent _ _
    obtain rfl := List.mem_singleton.1 hevent
    show (perform side .read pair).result ≠ _
    rw [hperform]
    intro h
    apply account.whole
    cases hresult : (Connection.readRecord (pair.connection side)).result with
    | error cause => rw [hresult] at h; exact congrArg _ (Except.error.inj h)
    | ok delivery => rw [hresult] at h; cases h

/-- A read of the other side leaves the account of a direction as it was. -/
theorem ledger_read_peer {pair : Pair} {side : Side} {queued queued' : List Record}
    (steady : (pair.link.wire side).port.Steady) (fits : ∀ record ∈ queued, record.Fits)
    (hqueue : pair.link.unread side = Record.stream queued)
    (fits' : ∀ record ∈ queued', record.Fits)
    (hqueue' : pair.link.unread side.peer = Record.stream queued') :
    Ledger pair (perform side .read pair).state [pair.event side .read] side.peer
      queued' [] queued' := by
  have hsteady : (pair.connection side).wire.port.Steady := steady
  obtain ⟨consumed, waiting, -, houtgoing, -, account⟩ :=
    @read_of_records (pair.connection side) queued fits hsteady hqueue
  have hne : side ≠ side.peer := side.peer_ne.symm
  have hwritten : written [pair.event side .read] side = [] := by
    simp [written, event, Event.written?]
  rw [state_perform, act_read]
  refine ⟨?_, fits', ?_, ?_, ?_, ?_, ?_, ?_⟩
  · rw [Side.peer_peer, hwritten, List.append_nil, List.nil_append]
  · rw [unread_setConnection_peer]
    show (Connection.readRecord (pair.connection side)).state.wire.outgoing.queue = _
    rw [houtgoing, outgoing_connection, hqueue']
  · simp [taken, Event.taken, event, hne]
  · have hnone : delivered [pair.event side .read] side.peer = [] := by
      simp only [delivered, List.filterMap_eq_nil_iff, List.mem_singleton]
      rintro _ rfl
      simp only [Event.delivered?, event]
      split
      · exact if_neg hne
      · rfl
    rw [hnone]
    exact List.nil_sublist _
  · rw [Side.peer_peer, transport_setConnection, hwritten, List.length_nil, Nat.add_zero]
    exact account.sent
  · have hrefusals : refusals [pair.event side .read] side.peer = 0 := by
      simp only [refusals, List.countP_eq_zero, List.mem_singleton]
      rintro _ rfl
      simp only [Event.refuses, event, hne, decide_false, Bool.false_and]
      split <;> simp
    rw [transport_setConnection_peer, hrefusals]
    rfl
  · intro event hevent hside
    obtain rfl := List.mem_singleton.1 hevent
    exact absurd hside hne

/-- Any orderly call has an account in each direction. -/
theorem ledger_perform {pair : Pair} (steady : pair.Steady) (side : Side) {call : Call}
    (horderly : call.Orderly) {queued : Side → List Record}
    (fits : ∀ reader, ∀ record ∈ queued reader, record.Fits)
    (hqueue : ∀ reader, pair.link.unread reader = Record.stream (queued reader)) (reader : Side) :
    ∃ consumed waiting, Ledger pair (perform side call pair).state [pair.event side call] reader
      (queued reader) consumed waiting := by
  by_cases hread : call = .read
  · subst hread
    rcases reader.eq_or_eq_peer side with rfl | rfl
    · exact ledger_read (steady reader) (fits reader) (hqueue reader)
    · exact ⟨[], queued side.peer, ledger_read_peer (steady side) (fits side) (hqueue side)
        (fits side.peer) (hqueue side.peer)⟩
  by_cases hwrite : ∃ type data, call = .write type data
  · obtain ⟨type, data, rfl⟩ := hwrite
    cases hresult : (Connection.writeRecord type data (pair.connection side)).result with
    | ok count => exact ⟨[], ledger_write hresult (fits reader) (hqueue reader)⟩
    | error cause =>
      refine ⟨[], queued reader, ledger_of_quiet ?_ ?_ hread (fits reader) (hqueue reader)⟩
      · rw [act_write]
        exact quiet_write_of_error hresult
      · have herror : (perform side (.write type data) pair).result = .error cause := by
          show (Call.act (.write type data) (pair.connection side)).result = _
          rw [act_write, hresult]
          rfl
        simp only [Event.written?, event, herror]
  · have hnone : (pair.event side call).written? reader.peer = none := by
      cases call with
      | write type data => exact absurd ⟨type, data, rfl⟩ hwrite
      | _ => rfl
    exact ⟨[], queued reader, ledger_of_quiet
      (quiet_act horderly (fun type data h => hwrite ⟨type, data, h⟩) hread _) hnone hread
      (fits reader) (hqueue reader)⟩

/-- No orderly call makes an end of the link fail its reads. -/
theorem steady_perform {pair : Pair} (steady : pair.Steady) (side : Side) {call : Call}
    (horderly : call.Orderly) {queued : List Record} (fits : ∀ record ∈ queued, record.Fits)
    (hqueue : pair.link.unread side = Record.stream queued) :
    (perform side call pair).state.Steady := by
  have hside : (pair.connection side).wire.port.Steady := steady side
  rw [state_perform]
  apply steady_setConnection steady
  by_cases hread : call = .read
  · subst hread
    obtain ⟨-, -, -, -, hport, -⟩ := @read_of_records (pair.connection side) queued fits hside hqueue
    rw [act_read]
    exact hport
  by_cases hwrite : ∃ type data, call = .write type data
  · obtain ⟨type, data, rfl⟩ := hwrite
    rw [act_write]
    cases hresult : (Connection.writeRecord type data (pair.connection side)).result with
    | ok count =>
      obtain ⟨sendable, wire, -, -, hstate, -, -, hport⟩ := write_of_ok hresult
      rw [hstate]
      exact hport hside
    | error cause => exact (quiet_write_of_error hresult).steady hside
  · exact (quiet_act horderly (fun type data h => hwrite ⟨type, data, h⟩) hread _).steady hside

/-! ## The account of a run -/

/-- Any run of orderly calls has an account in each direction. -/
theorem ledger_events {calls : List (Side × Call)} {pair : Pair}
    (horderly : ∀ entry ∈ calls, entry.2.Orderly) (steady : pair.Steady)
    {queued : Side → List Record} (fits : ∀ reader, ∀ record ∈ queued reader, record.Fits)
    (hqueue : ∀ reader, pair.link.unread reader = Record.stream (queued reader)) (reader : Side) :
    ∃ consumed waiting, Ledger pair (pair.after calls) (pair.events calls) reader
      (queued reader) consumed waiting := by
  induction calls generalizing pair queued with
  | nil => exact ⟨[], queued reader, ledger_nil (fits reader) (hqueue reader)⟩
  | cons entry calls ih =>
    obtain ⟨side, call⟩ := entry
    have hcall : call.Orderly := horderly (side, call) List.mem_cons_self
    have hcalls : ∀ entry ∈ calls, entry.2.Orderly :=
      fun entry hentry => horderly entry (List.mem_cons_of_mem _ hentry)
    -- The induction needs the records that wait in both directions.
    choose consumed waiting account using ledger_perform steady side hcall fits hqueue
    obtain ⟨consumed', waiting', account'⟩ :=
      @ih (perform side call pair).state hcalls
        (steady_perform steady side hcall (fits side) (hqueue side)) waiting
        (fun reader => (account reader).fits) (fun reader => (account reader).unread)
    exact ⟨consumed reader ++ consumed', waiting', ledger_trans (account reader) account'⟩

/-- No record is lost on a fresh pair, whatever is called on its two sides:
the records that were written are those that were taken and those that still
wait, in order, and the counters add up. -/
theorem records_conserved (logs : Bool) (random : Bytes) (log : KeyLog)
    {clientPort serverPort : Port} (hclient : clientPort.Steady) (hserver : serverPort.Steady)
    {calls : List (Side × Call)} (horderly : ∀ entry ∈ calls, entry.2.Orderly) (reader : Side) :
    let start := fresh logs random log clientPort serverPort
    let history := start.events calls
    let final := start.after calls
    ∃ consumed waiting frames,
      written history reader.peer = consumed ++ waiting ∧
      waiting.mapM Record.encode = .ok frames ∧
      final.link.unread reader = frames.flatten ∧
      taken history reader = consumed.map Record.header ∧
      (delivered history reader).Sublist (consumed.map Record.body) ∧
      (final.transport reader.peer).sent =
        (final.transport reader).received + (final.transport reader).skipped +
          refusals history reader + waiting.length ∧
      ∀ event ∈ history, event.side = reader → event.call = .read →
        event.outcome.result ≠ .error .bodyInterrupted := by
  intro start history final
  have steady : start.Steady := by
    intro side
    cases side
    · exact hclient
    · exact hserver
  obtain ⟨consumed, waiting, account⟩ :=
    @ledger_events calls start horderly steady (fun _ => []) (by simp)
      (fun reader => by cases reader <;> rfl) reader
  have horder : written history reader.peer = consumed ++ waiting := account.order
  obtain ⟨frames, hframes, hstream⟩ := Record.mapM_encode account.fits
  refine ⟨consumed, waiting, frames, horder, hframes, account.unread.trans hstream,
    account.headers, account.bodies, ?_, account.whole⟩
  have hsent : (final.transport reader.peer).sent = 0 + (written history reader.peer).length := by
    rw [account.sent]
    cases reader <;> rfl
  have hcounters : (final.transport reader).received + (final.transport reader).skipped +
      refusals history reader = 0 + 0 + consumed.length := by
    rw [account.counters]
    cases reader <;> rfl
  rw [hcounters, hsent, horder, List.length_append]
  omega

/-- The client sends at the initial level and then early data.  The server
refuses the first record, since it reads at the level of the handshake, and
drops the second one; then it closes, and what the client sends next fails.
Both records have been taken off the wire, and none waits. -/
theorem records_conserved_of_refusal_and_close :
    let calls : List (Side × Call) :=
      [(.client, .write (.number 22) [1]), (.server, .setLevel .read (.number 2)), (.server, .read),
        (.client, .install .write (.number 1) 0x1301 (.bytes [9])), (.server, .skip true),
        (.client, .write (.number 23) [2]), (.server, .read), (.server, .close),
        (.client, .write (.number 23) [3])]
    let refused : Record := { tag := 72, level := 0, suite := 0, secret := [], data := [1] }
    let dropped : Record := { tag := 65, level := 1, suite := 0x1301, secret := [9], data := [2] }
    let start := fresh false [] {} {} { limit := some 1 }
    let history := start.events calls
    let final := start.after calls
    Port.Steady {} ∧ Port.Steady { limit := some 1 } ∧ (∀ entry ∈ calls, entry.2.Orderly) ∧
      refusals history .server = 1 ∧ (final.transport .server).skipped = 1 ∧
      ∃ consumed waiting frames,
        consumed = [refused, dropped] ∧ waiting = [] ∧
        written history .client = consumed ++ waiting ∧
        waiting.mapM Record.encode = .ok frames ∧
        final.link.unread .server = frames.flatten ∧
        taken history .server = consumed.map Record.header ∧
        (delivered history .server).Sublist (consumed.map Record.body) ∧
        (final.transport .client).sent =
          (final.transport .server).received + (final.transport .server).skipped +
            refusals history .server + waiting.length ∧
        ∀ event ∈ history, event.side = .server → event.call = .read →
          event.outcome.result ≠ .error .bodyInterrupted := by
  intro calls refused dropped start history final
  have hclient : Port.Steady {} := Port.steady_default
  have hserver : Port.Steady { limit := some 1 } := ⟨rfl, by simp, by simp⟩
  have horderly : ∀ entry ∈ calls, entry.2.Orderly := by
    simp [calls, Call.Orderly]
  obtain ⟨consumed, waiting, frames, horder, hframes, hunread, htaken, hrest⟩ :=
    records_conserved false [] {} hclient hserver horderly .server
  have hwritten : written history .client = [refused, dropped] := by decide +kernel
  have hcount : (taken history .server).length = 2 := by decide +kernel
  have hlength : consumed.length = 2 := by
    rw [← hcount, htaken, List.length_map]
  obtain ⟨hconsumed, hwaiting⟩ : consumed = [refused, dropped] ∧ waiting = [] :=
    List.append_inj (horder.symm.trans hwritten) hlength
  exact ⟨hclient, hserver, horderly, by decide +kernel, by decide +kernel, consumed, waiting, frames,
    hconsumed, hwaiting, horder, hframes, hunread, htaken, hrest⟩

end Pair

end RecordLayer
