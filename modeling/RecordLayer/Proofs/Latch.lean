import Mathlib.Data.List.Induction
import Mathlib.Tactic.Common
import RecordLayer.Proofs.Conservation
import RecordLayer.Proofs.Courses
import RecordLayer.Proofs.Leading

/-!
# When early data is skipped

A caller sets a transport to skip early data, and the first valid record ends
that.  `Pair.Armed` says this of a history: skipping was turned on, and since
then it was neither assigned again nor ended.

* `Pair.skipping_after`: a transport skips early data exactly when the history
  of its calls is armed.
* `Connection.readRecord_behind_early_data`: early data in front of any bytes
  changes nothing about a read but one counter.
* `Pair.exists_follows`: a read as a history has it follows a reading of the
  bytes that wait.  The lemmas after it say what it drops, refuses, takes and
  counts.
* `Pair.early_data_skipped_while_armed`: all this for every read of any run, on
  a wire that may fail.
-/

namespace RecordLayer

/-! ## Early data in front of a read -/

namespace Transport

/-- The transport with some more records counted as dropped. -/
def withSkipped (transport : Transport) (count : Nat) : Transport :=
  { transport with skipped := transport.skipped + count }

@[simp] theorem drops_withSkipped (transport : Transport) (count : Nat) (header : Header) :
    (transport.withSkipped count).Drops header ↔ transport.Drops header := Iff.rfl

/-- The records that were dropped before do not matter for a read. -/
theorem reading_withSkipped (ending : StreamError) (transport : Transport) (count : Nat)
    (bytes : Bytes) :
    (transport.withSkipped count).reading ending bytes =
      { transport.reading ending bytes with
        transport := (transport.reading ending bytes).transport.withSkipped count } := by
  induction hn : bytes.length using Nat.strongRecOn generalizing bytes transport with
  | ind n ih =>
    subst hn
    cases hfront : Front.of bytes with
    | noHeader => rw [reading_noHeader hfront, reading_noHeader hfront]
    | noBody header => rw [reading_noBody hfront, reading_noBody hfront]
    | whole header body rest =>
      rw [reading_whole hfront, reading_whole hfront]
      by_cases hdrops : transport.Drops header
      · have hlater := ih _ (Front.length_rest_lt_of_whole hfront) (transport.withSkipped 1) rest rfl
        have hcount : (transport.withSkipped 1).withSkipped count =
            (transport.withSkipped count).withSkipped 1 := by
          simp only [withSkipped, Nat.add_right_comm]
        rw [hcount] at hlater
        rw [if_pos hdrops, if_pos ((drops_withSkipped _ _ _).2 hdrops)]
        simp only [withSkipped] at hlater ⊢
        rw [hlater]
      · rw [if_neg hdrops, if_neg (mt (drops_withSkipped _ _ _).1 hdrops)]
        cases hrefusal : transport.read.refusal? header body with
        | some cause => simp only [judge, withSkipped, hrefusal]
        | none => simp only [judge, withSkipped, hrefusal]

end Transport

namespace Connection

/-- Early data in front of any bytes is dropped and counted, and changes nothing
else about a read. -/
theorem readRecord_behind_early_data {endpoint : Endpoint} {incoming outgoing : Channel}
    {port : Port} (hopen : incoming.readerClosed = false) (steady : port.Steady)
    (hskipping : endpoint.transport.skipping = true) (hread : endpoint.transport.read.level ≠ 1)
    {dropped : List Record} (hdropped : ∀ record ∈ dropped, record.Fits ∧ record.level = 1)
    (bytes : Bytes) :
    let reads (queue : Bytes) := readRecord
      { toEndpoint := endpoint, wire := { incoming := { incoming with queue }, outgoing, port } }
    let later := reads bytes
    let behind := reads (Record.stream dropped ++ bytes)
    behind.result = later.result ∧
      behind.state.toEndpoint =
        { later.state.toEndpoint with
          transport := later.state.transport.withSkipped dropped.length } ∧
      behind.state.wire.incoming = later.state.wire.incoming ∧
      behind.state.wire.outgoing = later.state.wire.outgoing := by
  intro reads later behind
  obtain ⟨count, hlater⟩ : ∃ count, later = _ := @readRecord_eq_reading
    { toEndpoint := endpoint
      wire := { incoming := { incoming with queue := bytes }, outgoing, port } } hopen steady
  obtain ⟨count', hbehind⟩ : ∃ count', behind = _ := @readRecord_eq_reading
    { toEndpoint := endpoint
      wire :=
        { incoming := { incoming with queue := Record.stream dropped ++ bytes }, outgoing, port } }
    hopen steady
  have hending : ∀ queue : Bytes, Wire.ending
      { incoming := { incoming with queue }, outgoing, port } = Wire.ending { incoming } :=
    fun _ => rfl
  rw [settled, hending] at hlater hbehind
  dsimp only at hlater hbehind
  rw [Transport.reading_stream_append _ hdropped (fun _ => ⟨hskipping, hread⟩)] at hbehind
  have hshift := Transport.reading_withSkipped (Wire.ending { incoming }) endpoint.transport
    dropped.length bytes
  rw [Transport.withSkipped] at hshift
  rw [hshift] at hbehind
  rw [hlater, hbehind]
  exact ⟨rfl, rfl, rfl, rfl⟩

end Connection

namespace Pair

/-! ## Histories with skipping -/

/-- What a call has noted, if it is a read of `reader`. -/
def Event.readNotes (event : Event) (reader : Side) : List Note :=
  match event.call with
  | .read => if event.side = reader then event.outcome.notes else []
  | _ => []

/-- The headers of the records that a call has dropped, if it is a read of `reader`. -/
def Event.dropped (event : Event) (reader : Side) : List Header :=
  (event.readNotes reader).filterMap Note.dropped?

/-- The headers of the records that a call has found valid, if it is a read of `reader`. -/
def Event.validated (event : Event) (reader : Side) : List Header :=
  (event.readNotes reader).filterMap Note.validated?

/-- Whether a call turns the skipping of `reader` on or off. -/
def Event.assigned? (event : Event) (reader : Side) : Option Bool :=
  match event.call with
  | .skip value => if event.side = reader then some value else none
  | _ => none

/-- Skipping was turned on.  Since then it was neither turned on or off again
nor ended by a valid record. -/
def Armed (history : List Event) (reader : Side) : Prop :=
  ∃ earlier event later, history = earlier ++ event :: later ∧
    event.assigned? reader = some true ∧
    ∀ between ∈ later, between.assigned? reader = none ∧ between.validated reader = []

/-- The events of a run and one more call. -/
theorem events_snoc (pair : Pair) (calls : List (Side × Call)) (side : Side) (call : Call) :
    pair.events (calls ++ [(side, call)]) =
      pair.events calls ++ [(pair.after calls).event side call] := by
  induction calls generalizing pair with
  | nil => rfl
  | cons entry calls ih => exact congrArg (_ :: ·) (ih _)

/-- The pair after a run and one more call. -/
theorem after_snoc (pair : Pair) (calls : List (Side × Call)) (side : Side) (call : Call) :
    pair.after (calls ++ [(side, call)]) = (perform side call (pair.after calls)).state := by
  induction calls generalizing pair with
  | nil => rfl
  | cons entry calls ih => exact ih _

theorem not_armed_nil (reader : Side) : ¬Armed [] reader := by
  intro h
  obtain ⟨earlier, event, later, hhistory, -⟩ := h
  exact List.cons_ne_nil _ _ (List.append_eq_nil_iff.1 hhistory.symm).2

/-- The last event of an armed history has turned skipping on, or it has left on
what the history before it had. -/
theorem armed_snoc {history : List Event} {event : Event} {reader : Side} :
    Armed (history ++ [event]) reader ↔
      event.assigned? reader = some true ∨
        Armed history reader ∧ event.assigned? reader = none ∧ event.validated reader = [] := by
  constructor
  · intro h
    obtain ⟨earlier, first, later, hhistory, hfirst, hlater⟩ := h
    rcases List.eq_nil_or_concat later with rfl | ⟨between, last, rfl⟩
    · obtain ⟨-, hlast⟩ := List.append_inj' hhistory rfl
      obtain rfl := List.cons.inj hlast |>.1
      exact Or.inl hfirst
    · rw [List.concat_eq_append, ← List.cons_append, ← List.append_assoc] at hhistory
      obtain ⟨hearlier, hlast⟩ := List.append_inj' hhistory rfl
      obtain rfl := List.cons.inj hlast |>.1
      rw [List.concat_eq_append] at hlater
      refine Or.inr ⟨⟨earlier, first, between, hearlier, hfirst, fun e he => ?_⟩, ?_⟩
      · exact hlater e (List.mem_append_left _ he)
      · exact hlater event (List.mem_append_right _ List.mem_cons_self)
  · intro h
    rcases h with hassigned | ⟨⟨earlier, first, later, rfl, hfirst, hlater⟩, hkeeps⟩
    · exact ⟨history, event, [], rfl, hassigned, by simp⟩
    · refine ⟨earlier, first, later ++ [event], by simp, hfirst, fun e he => ?_⟩
      rcases List.mem_append.1 he with he | he
      · exact hlater e he
      · obtain rfl := List.mem_singleton.1 he
        exact hkeeps

/-! ## What one call does to skipping -/

/-- Only an assignment and a read have to do with skipping. -/
theorem skipping_act {call : Call} (hskip : ∀ value, call ≠ .skip value) (hread : call ≠ .read)
    (connection : Connection) :
    (call.act connection).state.transport.skipping = connection.transport.skipping := by
  have hepoch : ∀ direction epoch,
      (connection.transport.setEpoch direction epoch).skipping = connection.transport.skipping := by
    intro direction epoch
    cases direction <;> rfl
  cases call with
  | install direction level suite secret =>
    simp only [Call.act, answerNothing_apply, Connection.onEndpoint, Act.focus_apply,
      Endpoint.install_eq]
    generalize Epoch.install level suite secret (connection.transport.epoch direction) = installed
    obtain ⟨_ | _, epoch, notes⟩ := installed
    · exact hepoch direction epoch
    · dsimp only
      rw [Endpoint.transport_report]
      exact hepoch direction epoch
  | setLevel direction level =>
    simp only [Call.act, answerNothing_apply, Connection.onEndpoint, Act.focus_apply,
      Endpoint.setLevel, Act.bind_apply, Act.get_apply, Act.ofResult_apply]
    cases (connection.transport.epoch direction).setLevel level with
    | error cause => rfl
    | ok epoch => exact hepoch direction epoch
  | assign direction assignment => exact hepoch _ _
  | skip value => exact absurd rfl (hskip value)
  | write type data =>
    rw [act_write]
    have hsends := Connection.sends_writeRecord type data connection
    generalize Connection.writeRecord type data connection = outcome at hsends ⊢
    cases hsends <;> rfl
  | read => exact absurd rfl hread
  | fault direction f => cases direction <;> rfl
  | raw bytes =>
    rw [Call.act, answerNothing_apply]
    rfl
  | unstructured method => rfl
  | close => rfl
  | limit count => rfl

/-- A read goes by its notes. -/
theorem readNotes_event_read (pair : Pair) (reader : Side) :
    (pair.event reader .read).readNotes reader =
      (Connection.readRecord (pair.connection reader)).notes := by
  simp only [Event.readNotes, event, if_true]
  show (Call.act .read (pair.connection reader)).notes = _
  rw [act_read]

/-- What a call leaves on is what it has turned on, or what was on before and
was not ended by a valid record. -/
theorem skipping_perform (pair : Pair) (side : Side) (call : Call) (reader : Side) :
    ((perform side call pair).state.transport reader).skipping =
      match (pair.event side call).assigned? reader with
      | some value => value
      | none => (pair.transport reader).skipping && ((pair.event side call).validated reader).isEmpty := by
  rcases reader.eq_or_eq_peer side with rfl | rfl
  case inr =>
    have hne : side ≠ side.peer := side.peer_ne.symm
    have hassigned : (pair.event side call).assigned? side.peer = none := by
      unfold Event.assigned?
      split
      · exact if_neg hne
      · rfl
    have hvalidated : (pair.event side call).validated side.peer = [] := by
      unfold Event.validated Event.readNotes
      split
      · simp [event, hne]
      · rfl
    rw [hassigned, hvalidated, state_perform, transport_setConnection_peer]
    exact (Bool.and_true _).symm
  case inl =>
  rw [state_perform, transport_setConnection]
  by_cases hskip : ∃ value, call = .skip value
  · obtain ⟨value, rfl⟩ := hskip
    simp [event, Event.assigned?, Call.act, answerNothing_apply, change, Connection.onTransport,
      Connection.onEndpoint, Endpoint.onTransport]
  have hassigned : (pair.event reader call).assigned? reader = none := by
    unfold Event.assigned?
    split
    next value hcall => exact absurd ⟨value, hcall⟩ hskip
    next => rfl
  rw [hassigned]
  by_cases hread : call = .read
  · subst hread
    obtain ⟨reading, hcourse, hcomes⟩ := Connection.readRecord_course (pair.connection reader)
    rw [act_read, Event.validated, readNotes_event_read, hcomes.notes, hcomes.transport]
    exact hcourse.counters.2.2
  · have hvalidated : (pair.event reader call).validated reader = [] := by
      unfold Event.validated Event.readNotes
      split
      next hcall => exact absurd hcall hread
      next => rfl
    rw [skipping_act (fun value h => hskip ⟨value, h⟩) hread, hvalidated]
    exact (Bool.and_true _).symm

/-- A transport that did not skip early data at first does so exactly when the
history is armed. -/
theorem skipping_after {pair : Pair} {reader : Side}
    (hclear : (pair.transport reader).skipping = false) (calls : List (Side × Call)) :
    ((pair.after calls).transport reader).skipping = true ↔ Armed (pair.events calls) reader := by
  induction calls using List.reverseRecOn with
  | nil =>
    show (pair.transport reader).skipping = true ↔ _
    rw [hclear]
    exact ⟨fun h => absurd h (by simp), fun h => absurd h (not_armed_nil reader)⟩
  | append_singleton calls entry ih =>
    obtain ⟨side, call⟩ := entry
    rw [events_snoc, after_snoc, armed_snoc, skipping_perform, ← ih]
    cases ((pair.after calls).event side call).assigned? reader with
    | none => simp
    | some value => simp

/-! ## What a read comes to -/

/-- A read of `reader` follows a reading of the bytes that wait for it. -/
structure Follows (pair : Pair) (reader : Side) (reading : Transport.Reading) : Prop where
  course : Transport.Course (pair.transport reader) (pair.link.unread reader) reading
  notes : (pair.event reader .read).readNotes reader = reading.notes
  result : (pair.event reader .read).outcome.result = reading.result.map .delivery
  transport : (pair.event reader .read).outcome.state.transport reader = reading.transport
  unread : (pair.event reader .read).outcome.state.link.unread reader = reading.unread

section

variable {pair : Pair} {reader : Side} {header : Header}

theorem exists_follows (pair : Pair) (reader : Side) : ∃ reading, Follows pair reader reading := by
  obtain ⟨reading, hcourse, hcomes⟩ := Connection.readRecord_course (pair.connection reader)
  refine ⟨reading, hcourse, (readNotes_event_read pair reader).trans hcomes.notes, ?_, ?_, ?_⟩
  · show (Call.act .read (pair.connection reader)).result = _
    rw [act_read, hcomes.result]
  · show (perform reader .read pair).state.transport reader = _
    rw [state_perform, transport_setConnection, act_read, hcomes.transport]
  · show (perform reader .read pair).state.link.unread reader = _
    rw [state_perform, unread_setConnection, act_read, hcomes.unread]

theorem taken_event_read (pair : Pair) (reader : Side) :
    (pair.event reader .read).taken reader =
      ((pair.event reader .read).readNotes reader).filterMap Note.taken? := by
  simp only [Event.taken, Event.readNotes, event, if_true]

/-- Only early data is dropped, by a transport that skips it at another level. -/
theorem drops_of_mem_dropped (h : header ∈ (pair.event reader .read).dropped reader) :
    (pair.transport reader).Drops header := by
  obtain ⟨reading, follows⟩ := exists_follows pair reader
  rw [Event.dropped, follows.notes] at h
  exact follows.course.drops_of_dropped h

/-- Early data that is taken at another level and not skipped is refused. -/
theorem result_of_early_data (hskipping : (pair.transport reader).skipping = false)
    (hread : (pair.transport reader).read.level ≠ 1)
    (h : header ∈ (pair.event reader .read).taken reader) (hlevel : header.level = 1) :
    (pair.event reader .read).outcome.result =
      .error (.levelMismatch 1 (pair.transport reader).read.level) := by
  obtain ⟨reading, follows⟩ := exists_follows pair reader
  rw [taken_event_read, follows.notes] at h
  rw [follows.result, follows.course.refuses hskipping hread h hlevel]
  rfl

/-- A read drops records first, and judges at most one record after them. -/
theorem exists_last_of_read (pair : Pair) (reader : Side) :
    let read := pair.event reader .read
    ∃ last : Option Header, read.taken reader = read.dropped reader ++ last.toList ∧
      (read.validated reader).Sublist last.toList := by
  intro read
  obtain ⟨reading, follows⟩ := exists_follows pair reader
  rw [taken_event_read, Event.dropped, Event.validated, follows.notes]
  exact follows.course.dropped_first

/-- A read takes whole records off the wire, and part of one more if it is interrupted. -/
theorem exists_records_of_read (pair : Pair) (reader : Side) :
    let read := pair.event reader .read
    ∃ (records : List Record) (frames : List Bytes) (part : Bytes),
      records.mapM Record.encode = .ok frames ∧
      pair.link.unread reader =
        frames.flatten ++ part ++ read.outcome.state.link.unread reader ∧
      read.taken reader = records.map Record.header ∧
      (part = [] ∨ ∃ cause, read.outcome.result = .error cause ∧ cause.Interrupts) := by
  intro read
  obtain ⟨reading, follows⟩ := exists_follows pair reader
  obtain ⟨records, part, hfits, hbytes, hheaders, hpart⟩ := follows.course.taken_whole
  obtain ⟨frames, hframes, hstream⟩ := Record.mapM_encode hfits
  rw [hstream] at hbytes
  rw [taken_event_read, follows.notes, follows.unread, follows.result]
  refine ⟨records, frames, part, hframes, hbytes, hheaders, ?_⟩
  rcases hpart with hnone | ⟨cause, hcause, hinterrupts⟩
  · exact Or.inl hnone
  · refine Or.inr ⟨cause, ?_, hinterrupts⟩
    rw [hcause]
    rfl

/-- A read counts what it drops and what it finds valid. -/
theorem counters_of_read (pair : Pair) (reader : Side) :
    let read := pair.event reader .read
    (read.outcome.state.transport reader).skipped =
        (pair.transport reader).skipped + (read.dropped reader).length ∧
      (read.outcome.state.transport reader).received =
        (pair.transport reader).received + (read.validated reader).length := by
  intro read
  obtain ⟨reading, follows⟩ := exists_follows pair reader
  obtain ⟨hskipped, hreceived, -⟩ := follows.course.counters
  rw [Event.dropped, Event.validated, follows.notes, follows.transport]
  exact ⟨hskipped, hreceived⟩

/-- A whole record in front is taken by a read that does not fail. -/
theorem mem_taken_of_front (hopen : (pair.link.wire reader).incoming.readerClosed = false)
    (steady : (pair.link.wire reader).port.Steady) {body rest : Bytes}
    (hfront : Front.of (pair.link.unread reader) = .whole header body rest) :
    header ∈ (pair.event reader .read).taken reader := by
  obtain ⟨reads, hread⟩ := @Connection.readRecord_eq_reading (pair.connection reader) hopen steady
  rw [taken_event_read, readNotes_event_read, hread]
  exact Transport.mem_taken_of_whole (pair.connection reader).wire.ending hfront

end

/-! ## Every read of every run -/

/-- Early data is skipped without a trace but for a counter, and only while a
caller wants it.

First, records of early data in front of any bytes, read while skipping at
another level, change nothing about the read but the count of skipped records.
Second, take any run of calls on a pair of which `reader` did not skip at first,
on wires that may fail, and then a read of `reader`.  Whatever that read drops is
early data at another read level, and skipping had been turned on before and
neither assigned nor ended by a valid record since; otherwise early data that is
taken at another level is refused.  Its notes account for the bytes that it has
taken and for the counters. -/
theorem early_data_skipped_while_armed :
    (∀ (endpoint : Endpoint) (incoming outgoing : Channel) (port : Port) (dropped : List Record)
        (frames : List Bytes) (bytes : Bytes),
      incoming.readerClosed = false → port.Steady →
      endpoint.transport.skipping = true → endpoint.transport.read.level ≠ 1 →
      (∀ record ∈ dropped, record.level = 1) → dropped.mapM Record.encode = .ok frames →
      let reads (queue : Bytes) := Connection.readRecord
        { toEndpoint := endpoint, wire := { incoming := { incoming with queue }, outgoing, port } }
      let later := reads bytes
      let behind := reads (frames.flatten ++ bytes)
      behind.result = later.result ∧
        behind.state.toEndpoint =
          { later.state.toEndpoint with
            transport := { later.state.transport with
              skipped := later.state.transport.skipped + dropped.length } } ∧
        behind.state.wire.incoming = later.state.wire.incoming ∧
        behind.state.wire.outgoing = later.state.wire.outgoing) ∧
    ∀ (start : Pair) (reader : Side) (calls : List (Side × Call)),
      (start.transport reader).skipping = false →
      let history := start.events calls
      let pair := start.after calls
      let read := pair.event reader .read
      let level := (pair.transport reader).read.level
      ((pair.transport reader).skipping = true ↔ Armed history reader) ∧
      (∀ header ∈ read.dropped reader, header.level = 1 ∧ level ≠ 1 ∧ Armed history reader) ∧
      (∀ header ∈ read.taken reader, header.level = 1 → level ≠ 1 → ¬Armed history reader →
        read.outcome.result = .error (.levelMismatch 1 level)) ∧
      (∃ last : Option Header, read.taken reader = read.dropped reader ++ last.toList ∧
        (read.validated reader).Sublist last.toList) ∧
      (∃ (records : List Record) (frames : List Bytes) (part : Bytes),
        records.mapM Record.encode = .ok frames ∧
        pair.link.unread reader =
          frames.flatten ++ part ++ read.outcome.state.link.unread reader ∧
        read.taken reader = records.map Record.header ∧
        (part = [] ∨ ∃ cause, read.outcome.result = .error cause ∧ cause.Interrupts)) ∧
      (read.outcome.state.transport reader).skipped =
        (pair.transport reader).skipped + (read.dropped reader).length ∧
      (read.outcome.state.transport reader).received =
        (pair.transport reader).received + (read.validated reader).length ∧
      ((pair.link.wire reader).incoming.readerClosed = false →
        (pair.link.wire reader).port.Steady → ∀ header body rest,
        Front.of (pair.link.unread reader) = .whole header body rest →
          header ∈ read.taken reader) := by
  constructor
  · intro endpoint incoming outgoing port dropped frames bytes hopen steady hskipping hread hlevels
      hframes
    obtain ⟨hfits, hstream⟩ := Record.stream_of_mapM_encode hframes
    rw [← hstream]
    exact Connection.readRecord_behind_early_data hopen steady hskipping hread
      (fun record hrecord => ⟨hfits record hrecord, hlevels record hrecord⟩) bytes
  · intro start reader calls hclear history pair read level
    have hlatch : (pair.transport reader).skipping = true ↔ Armed history reader :=
      skipping_after hclear calls
    obtain ⟨hskipped, hreceived⟩ := counters_of_read pair reader
    refine ⟨hlatch, ?_, ?_, exists_last_of_read pair reader, exists_records_of_read pair reader,
      hskipped, hreceived, ?_⟩
    · intro header hheader
      obtain ⟨hskipping, hread, hlevel⟩ := drops_of_mem_dropped hheader
      exact ⟨hlevel, hread, hlatch.1 hskipping⟩
    · intro header hheader hlevel hread hnot
      have hskipping : (pair.transport reader).skipping = false :=
        Bool.eq_false_iff.2 (mt hlatch.1 hnot)
      exact result_of_early_data hskipping hread hheader hlevel
    · exact fun hopen steady header body rest hfront => mem_taken_of_front hopen steady hfront

/-- Two records of early data in front of a handshake record are dropped.  The
same record is refused after skipping was turned on and off again. -/
theorem early_data_skipped_while_armed_on_and_off :
    let early : Record := { tag := 65, level := 1, suite := 0, secret := [9], data := [7] }
    let frame : Bytes := [65, 1, 0, 0, 0, 0, 0, 2, 9, 7]
    let bytes : Bytes := [72, 2, 0, 0, 0, 0, 0, 0]
    let endpoint : Endpoint :=
      { transport := { side := .server, read := { level := 2 }, skipping := true } }
    let reads (queue : Bytes) := Connection.readRecord
      { toEndpoint := endpoint, wire := { incoming := { queue } } }
    let start := fresh false [] {} {} {}
    let calls : List (Side × Call) :=
      [(.client, .raw frame), (.server, .setLevel .read (.number 2)), (.server, .skip true),
        (.server, .skip false)]
    let pair := start.after calls
    let read := pair.event .server .read
    Port.Steady {} ∧ [early, early].mapM Record.encode = .ok [frame, frame] ∧
      (reads ([frame, frame].flatten ++ bytes)).result = (reads bytes).result ∧
      (reads ([frame, frame].flatten ++ bytes)).state.toEndpoint =
        { (reads bytes).state.toEndpoint with
          transport := { (reads bytes).state.transport with
            skipped := (reads bytes).state.transport.skipped + 2 } } ∧
      ¬Armed (start.events calls) .server ∧ early.header ∈ read.taken .server ∧
      read.outcome.result = .error (.levelMismatch 1 2) := by
  intro early frame bytes endpoint reads start calls pair read
  have hframes : [early, early].mapM Record.encode = .ok [frame, frame] := by decide
  obtain ⟨hbehind, hruns⟩ := early_data_skipped_while_armed
  obtain ⟨hresult, hendpoint, -⟩ := hbehind endpoint {} {} {} [early, early] [frame, frame] bytes
    rfl Port.steady_default rfl (by decide) (by simp [early]) hframes
  obtain ⟨hlatch, -, hrefused, -, -, -, -, hwhole⟩ := hruns start .server calls rfl
  have hnot : ¬Armed (start.events calls) .server := fun h => absurd (hlatch.2 h) (by decide)
  have htaken : early.header ∈ read.taken .server :=
    hwhole rfl Port.steady_default early.header [9, 7] [] (by decide)
  exact ⟨Port.steady_default, hframes, hresult, hendpoint, hnot, htaken,
    hrefused early.header htaken rfl (by decide) hnot⟩

end Pair

end RecordLayer
