import Mathlib.Tactic.Common
import RecordLayer.Proofs.Conservation
import RecordLayer.Proofs.Directions

/-!
# The pace of reads

How many bytes each read takes is up to the reading end of a wire.  Two wires
match if that is all they differ in, and each read takes at least one byte
(`Wire.Matches`).  Nothing that a caller does to a transport tells matching
wires apart:

* `Connection.paceless_writeRecord` and `Connection.paceless_readRecord` say so
  for the two calls that use the wire;
* `Pair.agrees_act` says so for every call that keeps reads free of faults;
* `Pair.replies_of_matches` is the same for every run of such calls on the two
  sides of a pair.
-/

namespace RecordLayer

/-! ## Wires -/

namespace Wire

/-- The wire with another incoming channel, read as a port tells. -/
def hearing (wire : Wire) (incoming : Channel) (port : Port) : Wire :=
  { wire with incoming, port := { port with writeFault := wire.port.writeFault } }

@[simp] theorem hearing_self (wire : Wire) : wire.hearing wire.incoming wire.port = wire := rfl

theorem steady_hearing {port : Port} (steady : port.Steady) (wire : Wire) (incoming : Channel) :
    (wire.hearing incoming port).port.Steady :=
  ⟨steady.readFault, steady.limit, steady.pieces⟩

/-- What a write does has nothing to do with what there is to read. -/
theorem send_hearing (wire : Wire) (bytes : Bytes) (incoming : Channel) (port : Port) :
    (wire.hearing incoming port).send bytes =
      ((wire.send bytes).1, (wire.send bytes).2.hearing incoming port) := by
  obtain ⟨incoming', ⟨queue, writerClosed, readerClosed⟩, limit, pieces, readFault, writeFault⟩ := wire
  cases writerClosed with
  | true => rfl
  | false =>
    simp only [send, hearing, Bool.false_eq_true, if_false]
    cases Fault.strike writeFault with
    | error e => rfl
    | ok writeFault => cases readerClosed <;> rfl

/-- Two wires differ at most in how many bytes each of their reads takes, and
every read that can takes at least one. -/
structure Matches (wire wire' : Wire) : Prop where
  incoming : wire.incoming = wire'.incoming
  outgoing : wire.outgoing = wire'.outgoing
  writeFault : wire.port.writeFault = wire'.port.writeFault
  steady : wire.port.Steady
  steady' : wire'.port.Steady

variable {wire wire' : Wire}

theorem Matches.close (h : wire.Matches wire') : wire.close.Matches wire'.close where
  incoming := by rw [Wire.close, Wire.close, h.incoming]
  outgoing := by rw [Wire.close, Wire.close, h.outgoing]
  writeFault := h.writeFault
  steady := h.steady
  steady' := h.steady'

theorem Matches.leaving (h : wire.Matches wire') (unread : Bytes) (reads reads' : Nat) :
    (wire.leaving unread reads).Matches (wire'.leaving unread reads') where
  incoming := by rw [Wire.leaving, Wire.leaving, h.incoming]
  outgoing := h.outgoing
  writeFault := h.writeFault
  steady := steady_leaving h.steady unread reads
  steady' := steady_leaving h.steady' unread reads'

theorem Matches.ending (h : wire.Matches wire') : wire.ending = wire'.ending := by
  rw [Wire.ending, Wire.ending, h.incoming]

/-- Of two wires that match, one is the other with reads at another pace. -/
theorem Matches.eq_hearing (h : wire.Matches wire') :
    wire' = wire.hearing wire.incoming wire'.port := by
  obtain ⟨incoming, outgoing, port⟩ := wire
  obtain ⟨incoming', outgoing', port'⟩ := wire'
  obtain ⟨rfl, rfl, hfault, steady, steady'⟩ := h
  rw [hearing, hfault]

/-- A write comes to the same on wires that match. -/
theorem Matches.send (h : wire.Matches wire') (bytes : Bytes) :
    (wire.send bytes).1 = (wire'.send bytes).1 ∧
      (wire.send bytes).2.Matches (wire'.send bytes).2 := by
  have hsend := send_hearing wire bytes wire.incoming wire.port
  have hsend' := send_hearing wire bytes wire.incoming wire'.port
  rw [hearing_self] at hsend
  rw [← h.eq_hearing] at hsend'
  rw [hsend', hsend]
  exact ⟨rfl, rfl, rfl, rfl, steady_hearing h.steady _ _, steady_hearing h.steady' _ _⟩

end Wire

/-! ## Connections -/

namespace Connection

variable {α β : Type}

/-- Two connections differ at most in how many bytes each of their reads takes. -/
structure Matches (connection connection' : Connection) : Prop where
  endpoint : connection.toEndpoint = connection'.toEndpoint
  wire : connection.wire.Matches connection'.wire

/-- Two outcomes tell the same, and leave connections that match. -/
structure Agrees (outcome outcome' : Outcome Connection α) : Prop where
  result : outcome.result = outcome'.result
  notes : outcome.notes = outcome'.notes
  state : outcome.state.Matches outcome'.state

/-- An action does not tell matching connections apart. -/
def Paceless (action : Act Connection α) : Prop :=
  ∀ connection connection', Matches connection connection' →
    Agrees (action connection) (action connection')

theorem paceless_pure (a : α) : Paceless (pure a) :=
  fun _ _ h => ⟨rfl, rfl, h⟩

theorem paceless_fail (e : Error) : Paceless (Act.fail e : Act Connection α) :=
  fun _ _ h => ⟨rfl, rfl, h⟩

theorem paceless_bind {first : Act Connection α} {second : α → Act Connection β}
    (hfirst : Paceless first) (hsecond : ∀ a, Paceless (second a)) : Paceless (first >>= second) := by
  intro connection connection' h
  have hagrees := hfirst connection connection' h
  rw [Act.bind_apply, Act.bind_apply]
  generalize first connection = outcome at hagrees ⊢
  generalize first connection' = outcome' at hagrees ⊢
  obtain ⟨result, state, notes⟩ := outcome
  obtain ⟨result', state', notes'⟩ := outcome'
  obtain ⟨rfl, rfl, hstate⟩ := hagrees
  cases result with
  | error e => exact ⟨rfl, rfl, hstate⟩
  | ok a =>
    have hlater := hsecond a state state' hstate
    exact ⟨hlater.result, congrArg (notes ++ ·) hlater.notes, hlater.state⟩

/-- An action on the endpoint does not touch the wire. -/
theorem paceless_onEndpoint (action : Act Endpoint α) : Paceless (onEndpoint action) := by
  rintro ⟨endpoint, wire⟩ ⟨endpoint', wire'⟩ ⟨rfl, hwire⟩
  exact ⟨rfl, rfl, rfl, hwire⟩

/-- A change of the wire that keeps wires matching. -/
theorem paceless_onWire {f : Wire → Wire}
    (hf : ∀ wire wire' : Wire, wire.Matches wire' → (f wire).Matches (f wire')) :
    Paceless (Act.modify fun connection => { connection with wire := f connection.wire }) :=
  fun _ _ h => ⟨rfl, rfl, h.endpoint, hf _ _ h.wire⟩

theorem paceless_sendRaw (bytes : Bytes) : Paceless (sendRaw bytes) := by
  intro connection connection' h
  obtain ⟨hresult, hwire⟩ := h.wire.send bytes
  exact ⟨congrArg (Except.mapError Error.stream) hresult, rfl, h.endpoint, hwire⟩

theorem paceless_writeRecord (type : Code) (data : Bytes) : Paceless (writeRecord type data) := by
  rintro ⟨⟨transport, log⟩, wire⟩ ⟨endpoint', wire'⟩ ⟨rfl, hwire⟩
  rw [writeRecord_eq, writeRecord_eq]
  cases RecordType.sendable? type with
  | none => exact ⟨rfl, rfl, rfl, hwire⟩
  | some type =>
    dsimp only
    cases (transport.write.stamp type data).encode with
    | error e => exact ⟨rfl, rfl, rfl, hwire⟩
    | ok bytes =>
      obtain ⟨hresult, hafter⟩ := hwire.send bytes
      dsimp only
      generalize wire.send bytes = sent at hresult hafter ⊢
      generalize wire'.send bytes = sent' at hresult hafter ⊢
      obtain ⟨result, after⟩ := sent
      obtain ⟨result', after'⟩ := sent'
      obtain rfl : result = result' := hresult
      cases result with
      | error e => exact ⟨rfl, rfl, rfl, hafter⟩
      | ok u => exact ⟨rfl, rfl, rfl, hafter⟩

/-- What a read comes to goes by the bytes that are there and by what is behind them. -/
theorem paceless_readRecord : Paceless readRecord := by
  rintro ⟨endpoint, wire⟩ ⟨endpoint', wire'⟩ ⟨rfl, hwire⟩
  cases hclosed : wire.incoming.readerClosed with
  | true =>
    have hclosed' : wire'.incoming.readerClosed = true := by rw [← hwire.incoming, hclosed]
    rw [@Pair.read_of_closed { toEndpoint := endpoint, wire } hclosed,
      @Pair.read_of_closed { toEndpoint := endpoint, wire := wire' } hclosed']
    exact ⟨rfl, rfl, rfl, hwire⟩
  | false =>
    have hclosed' : wire'.incoming.readerClosed = false := by rw [← hwire.incoming, hclosed]
    obtain ⟨reads, hread⟩ :=
      @readRecord_eq_reading { toEndpoint := endpoint, wire } hclosed hwire.steady
    obtain ⟨reads', hread'⟩ :=
      @readRecord_eq_reading { toEndpoint := endpoint, wire := wire' } hclosed' hwire.steady'
    rw [hread, hread', ← hwire.incoming, ← hwire.ending]
    exact ⟨rfl, rfl, rfl, hwire.leaving _ reads reads'⟩

end Connection

/-! ## Pairs -/

namespace Pair

/-- A call that makes no read fail, and lets a read take at least one byte. -/
def Call.KeepsSteady : Call → Prop
  | .limit (some 0) => False
  | .fault .read (some _) => False
  | _ => True

/-- A change of the port that keeps reads steady and fixes the faults of writes alike. -/
theorem paceless_onPort {f : Port → Port}
    (hwrite : ∀ port port' : Port, port.writeFault = port'.writeFault →
      (f port).writeFault = (f port').writeFault)
    (hsteady : ∀ port : Port, port.Steady → (f port).Steady) : Connection.Paceless (onPort f) :=
  fun _ _ h => ⟨rfl, rfl, h.endpoint, h.wire.incoming, h.wire.outgoing,
    hwrite _ _ h.wire.writeFault, hsteady _ h.wire.steady, hsteady _ h.wire.steady'⟩

/-- No call that keeps reads steady tells matching connections apart. -/
theorem paceless_act {call : Call} (h : call.KeepsSteady) : Connection.Paceless call.act := by
  have hnothing : ∀ {action}, Connection.Paceless action → Connection.Paceless (answerNothing action) :=
    fun haction => Connection.paceless_bind haction fun _ => Connection.paceless_pure _
  cases call with
  | install direction level suite secret => exact hnothing (Connection.paceless_onEndpoint _)
  | setLevel direction level => exact hnothing (Connection.paceless_onEndpoint _)
  | assign direction assignment => exact hnothing (Connection.paceless_onEndpoint _)
  | skip value => exact hnothing (Connection.paceless_onEndpoint _)
  | write type data =>
    exact Connection.paceless_bind (Connection.paceless_writeRecord type data) fun _ =>
      Connection.paceless_pure _
  | read =>
    exact Connection.paceless_bind Connection.paceless_readRecord fun _ =>
      Connection.paceless_pure _
  | raw bytes => exact hnothing (Connection.paceless_sendRaw bytes)
  | unstructured method => exact Connection.paceless_fail _
  | close => exact hnothing (Connection.paceless_onWire fun _ _ hwire => hwire.close)
  | limit count =>
    have hlimit : count ≠ some 0 := by
      rintro rfl
      exact h
    refine hnothing (paceless_onPort (fun _ _ hfault => hfault) fun port steady => ?_)
    exact ⟨steady.readFault, hlimit, steady.pieces⟩
  | fault direction f =>
    cases direction with
    | read =>
      have hfault : f = none := by
        cases f with
        | none => rfl
        | some fault => exact h.elim
      refine hnothing (paceless_onPort (fun _ _ hfault => hfault) fun port steady => ?_)
      exact ⟨hfault, steady.limit, steady.pieces⟩
    | write =>
      refine hnothing (paceless_onPort (fun _ _ _ => rfl) fun port steady => ?_)
      exact ⟨steady.readFault, steady.limit, steady.pieces⟩

/-- Two pairs differ at most in how many bytes each read at each end takes. -/
structure Matches (pair pair' : Pair) : Prop where
  client : pair.client = pair'.client
  server : pair.server = pair'.server
  log : pair.log = pair'.log
  wire : ∀ side, (pair.link.wire side).Matches (pair'.link.wire side)

theorem Matches.connection {pair pair' : Pair} (h : pair.Matches pair') (side : Side) :
    (pair.connection side).Matches (pair'.connection side) where
  endpoint := by cases side <;> simp only [Pair.connection, transport, h.client, h.server, h.log]
  wire := h.wire side

/-- Both pairs get connections that match. -/
theorem Matches.setConnection {pair pair' : Pair} (h : pair.Matches pair') (side : Side)
    {connection connection' : Connection} (hconnection : connection.Matches connection') :
    (pair.setConnection side connection).Matches (pair'.setConnection side connection') := by
  obtain ⟨⟨transport, log⟩, wire⟩ := connection
  obtain ⟨endpoint', wire'⟩ := connection'
  obtain ⟨rfl, hwire⟩ := hconnection
  have hclient := h.wire .client
  have hserver := h.wire .server
  cases side with
  | client =>
    refine ⟨rfl, h.server, rfl, fun side => ?_⟩
    cases side with
    | client => exact hwire
    | server =>
      exact ⟨hwire.outgoing, hwire.incoming, hserver.writeFault, hserver.steady, hserver.steady'⟩
  | server =>
    refine ⟨h.client, rfl, rfl, fun side => ?_⟩
    cases side with
    | client =>
      exact ⟨hwire.outgoing, hwire.incoming, hclient.writeFault, hclient.steady, hclient.steady'⟩
    | server => exact hwire

/-- What a call of a history gave back and noted. -/
def Event.reply (event : Event) : Reply where
  call := event.call
  result := event.outcome.result
  notes := event.outcome.notes

/-- Runs of the same calls on matching pairs give the same replies, and leave matching pairs. -/
theorem replies_of_matches {pair pair' : Pair} (h : pair.Matches pair') {calls : List (Side × Call)}
    (hcalls : ∀ entry ∈ calls, entry.2.KeepsSteady) :
    (pair.events calls).map Event.reply = (pair'.events calls).map Event.reply ∧
      (pair.after calls).Matches (pair'.after calls) := by
  induction calls generalizing pair pair' with
  | nil => exact ⟨rfl, h⟩
  | cons entry calls ih =>
    obtain ⟨side, call⟩ := entry
    have hagrees := paceless_act (hcalls (side, call) List.mem_cons_self) _ _ (h.connection side)
    obtain ⟨hreplies, hafter⟩ := ih (h.setConnection side hagrees.state)
      fun entry hentry => hcalls entry (List.mem_cons_of_mem _ hentry)
    refine ⟨?_, hafter⟩
    have hfirst : Event.reply { before := pair, side, call, outcome := perform side call pair } =
        Event.reply { before := pair', side, call, outcome := perform side call pair' } := by
      show Reply.mk call _ _ = Reply.mk call _ _
      rw [show (perform side call pair).result = _ from hagrees.result,
        show (perform side call pair).notes = _ from hagrees.notes]
      rfl
    rw [events, events, List.map_cons, List.map_cons, hfirst]
    exact congrArg (List.cons _) hreplies

end Pair

end RecordLayer
