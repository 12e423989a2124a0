import Mathlib.Tactic.Common
import RecordLayer.Proofs.Restraint
import RecordLayer.Proofs.WholeWrites

/-!
# Records of another type

Both sides ask for handshake messages and for application data.  A handshake
message has to come in a handshake record.  Application data may come in a record
of any type: a side looks at the epoch of the record and at its data.

* `Record.Retyped`: two records that differ at most in their types.
* `Client.returns_retyped`: a client that returns would have done so with an answer
  of any type.
* `Server.returns_retyped`: a server that returns would have done so with early data
  and a request of any types.
* `application_data_of_any_type` puts both together.
-/

namespace RecordLayer

/-! ## Records that differ in their types -/

namespace Record

/-- A record has the tag of a type. -/
def Typed (record : Record) : Prop := ∃ type : RecordType, record.tag = type.tag

/-- Two records with tags of types, and no difference otherwise. -/
def Retyped (record other : Record) : Prop :=
  record.Typed ∧ ∃ type : RecordType, other = { record with tag := type.tag }

theorem typed_stamp (epoch : Epoch) (type : RecordType) (data : Bytes) :
    (epoch.stamp type data).Typed := ⟨type, rfl⟩

/-- A record of an epoch stays one. -/
theorem Retyped.eq_stamp {epoch : Epoch} {type : RecordType} {data : Bytes} {other : Record}
    (h : (epoch.stamp type data).Retyped other) : ∃ type', other = epoch.stamp type' data := by
  obtain ⟨-, type', rfl⟩ := h
  exact ⟨type', rfl⟩

theorem Retyped.fits {record other : Record} (h : record.Retyped other) (fits : record.Fits) :
    other.Fits := by
  obtain ⟨-, type, rfl⟩ := h
  exact ⟨type.tag_fits, fits.level, fits.suite, fits.size⟩

theorem Retyped.level {record other : Record} (h : record.Retyped other) :
    other.level = record.level := by
  obtain ⟨-, type, rfl⟩ := h
  rfl

variable {records others : List Record}

/-- What does not depend on the type of a record is kept for all of them. -/
theorem forall_of_retyped {p : Record → Prop} (h : List.Forall₂ Retyped records others)
    (hkeeps : ∀ record other, Retyped record other → p record → p other)
    (hrecords : ∀ record ∈ records, p record) : ∀ other ∈ others, p other := by
  induction h with
  | nil => exact hrecords
  | cons hfirst _ ih =>
    rw [List.forall_mem_cons] at hrecords ⊢
    exact ⟨hkeeps _ _ hfirst hrecords.1, ih hrecords.2⟩

/-- Records of an epoch stay records of that epoch, as many as they are. -/
theorem exists_recordsOf {epoch : Epoch} {deliveries : List Delivery}
    (h : List.Forall₂ Retyped (Server.recordsOf epoch deliveries) others) :
    ∃ deliveries', deliveries'.length = deliveries.length ∧
      others = Server.recordsOf epoch deliveries' := by
  induction deliveries generalizing others with
  | nil =>
    cases h
    exact ⟨[], rfl, rfl⟩
  | cons delivery deliveries ih =>
    rw [Server.recordsOf, List.map_cons] at h
    cases h with
    | cons hfirst hlater =>
      obtain ⟨type, rfl⟩ := hfirst.eq_stamp
      obtain ⟨deliveries', hlength, rfl⟩ := ih hlater
      refine ⟨{ type, data := delivery.data } :: deliveries', ?_, rfl⟩
      rw [List.length_cons, List.length_cons, hlength]

end Record

open Record (Retyped)

/-! ## Runs that return -/

namespace Party

variable {σ ρ : Type} {script : Script σ ρ} {party : Party σ ρ} {port : Port}

/-- A party that is given some bytes and nothing more returns a summary, with `rest`
unread and `sent` sent. -/
def Returns (script : Script σ ρ) (party : Party σ ρ) (port : Port) (bytes : Bytes) (summary : ρ)
    (rest sent : Bytes) : Prop :=
  let final := run script party { incoming := { queue := bytes, writerClosed := true }, port }
  final.1.result = .ok summary ∧ final.2.incoming.queue = rest ∧ final.2.outgoing.queue = sent

/-- What a run returns follows from the bytes. -/
theorem Returns.unique {bytes rest rest' sent sent' : Bytes} {summary summary' : ρ}
    (h : Returns script party port bytes summary rest sent)
    (h' : Returns script party port bytes summary' rest' sent') :
    summary = summary' ∧ rest = rest' ∧ sent = sent' := by
  obtain ⟨hresult, hrest, hsent⟩ := h
  obtain ⟨hresult', hrest', hsent'⟩ := h'
  exact ⟨Except.ok.inj (hresult.symm.trans hresult'), hrest.symm.trans hrest', hsent.symm.trans hsent'⟩

variable {place place' : Place σ}

theorem returns_of_goes {summary : ρ}
    (stands : Stands script true place party
      { incoming := { queue := place.unread, writerClosed := true }, port })
    (h : Goes script true place place') (hend : enter script place'.stage = .ended (.ok summary)) :
    Returns script party port place.unread summary place'.unread place'.sent :=
  run_of_goes stands h hend

/-- A run that fails does not return. -/
theorem not_returns_of_stops {sent rest sent' : Bytes} {summary : ρ}
    (stands : Stands script true place party
      { incoming := { queue := place.unread, writerClosed := true }, port })
    (h : Stops script true place sent) :
    ¬Returns script party port place.unread summary rest sent' := by
  rintro ⟨hresult, -⟩
  obtain ⟨⟨e, hstatus⟩, -⟩ := run_of_stops stands h
  rw [result, hstatus] at hresult
  cases hresult

end Party

/-! ## The client -/

namespace Client

variable {config : Config} {suite : CipherSuite} {count : Nat} {bytes rest sent : Bytes}
  {summary : Summary} {client : Party Stage Summary} {port : Port}

/-- The view of a client that waits for the answer to its ping. -/
def waitingView (config : Config) (suite : CipherSuite) (flight : Flight) : Session.View :=
  pingView (verifiedView (helloView config suite) flight) flight.application

/-- Behind a flight that it verifies a client waits for the answer to its ping. -/
theorem goes_waiting (fits : config.Fits suite count) {flight : Flight} {later : Bytes}
    (h : Verifies config suite bytes flight later) :
    (waitingView config suite flight).read =
        flight.keys.suite.epoch .application flight.application.server ∧
      Party.Goes (script config) true (atStart suite bytes)
        { stage := .pong, view := waitingView config suite flight, unread := later
          sent := Record.stream (config.opening suite ++ flight.answer) } := by
  obtain ⟨shared, -, hkeys⟩ := h.keys
  have hsuite : (helloView config suite).suite = flight.keys.suite :=
    (congrArg Keys.suite hkeys).symm
  constructor
  · rw [← hsuite]
    rfl
  · rw [Record.stream_append]
    exact (goes_mark fits h).trans (goes_answer hsuite)

/-- A client returns on a flight that it verifies and one more record, of any type. -/
theorem returns_iff (fits : config.Fits suite count)
    (stands : Party.Stands (script config) true (atStart suite bytes) client
      { incoming := { queue := bytes, writerClosed := true }, port }) :
    Party.Returns (script config) client port bytes summary rest sent ↔
      ∃ flight later type, Verifies config suite bytes flight later ∧
        ((flight.keys.suite.epoch .application flight.application.server).stamp
          type summary.applicationData).Leads later rest ∧
        summary.earlyDataSent = count ∧
        sent = Record.stream (config.opening suite ++ flight.answer) := by
  have hreturns : ∀ flight later type data after, Verifies config suite bytes flight later →
      ((flight.keys.suite.epoch .application flight.application.server).stamp type data).Leads
        later after →
      Party.Returns (script config) client port bytes
        { earlyDataSent := count, applicationData := data } after
        (Record.stream (config.opening suite ++ flight.answer)) := by
    intro flight later type data after hverifies hlead
    obtain ⟨hread, hgoes⟩ := goes_waiting fits hverifies
    rw [← hread] at hlead
    have hlast : Party.Goes (script config) true
        { stage := .pong, view := waitingView config suite flight, unread := later
          sent := Record.stream (config.opening suite ++ flight.answer) }
        { stage := .done data, view := waitingView config suite flight, unread := after
          sent := Record.stream (config.opening suite ++ flight.answer) } :=
      Party.goes_receive_next rfl rfl hlead (Session.gives_pure _)
    refine Party.returns_of_goes stands (hgoes.trans hlast) ?_
    rw [← Int.toNat_natCast count, ← fits.number]
    rfl
  constructor
  · intro h
    by_cases hverifies : ∃ flight later, Verifies config suite bytes flight later
    · obtain ⟨flight, later, hverifies⟩ := hverifies
      obtain ⟨hread, hgoes⟩ := goes_waiting fits hverifies
      by_cases hlead : ∃ type data after, ((flight.keys.suite.epoch .application
          flight.application.server).stamp type data).Leads later after
      · obtain ⟨type, data, after, hlead⟩ := hlead
        obtain ⟨rfl, rfl, rfl⟩ := h.unique (hreturns flight later type data after hverifies hlead)
        exact ⟨flight, later, type, hverifies, hlead, rfl, rfl⟩
      · refine absurd h (Party.not_returns_of_stops stands (hgoes.stops
          (Party.stops_of_nothing rfl fun dropped delivery after hreceives => ?_)))
        have hfront := hreceives.leads_of_not_skipping rfl
        rw [hread] at hfront
        exact hlead ⟨_, _, after, hfront⟩
    · refine absurd h (Party.not_returns_of_stops stands (stops_of_none fits ?_))
      exact fun flight later h' => hverifies ⟨flight, later, h'⟩
  · intro h
    obtain ⟨flight, later, type, hverifies, hlead, hcount, rfl⟩ := h
    obtain ⟨earlyDataSent, applicationData⟩ := summary
    obtain rfl : earlyDataSent = count := hcount
    exact hreturns flight later type applicationData rest hverifies hlead

/-- A flight stands in handshake records, and is verified whatever follows them. -/
theorem exists_records_of_verifies {flight : Flight} {later : Bytes}
    (h : Verifies config suite bytes flight later) :
    ∃ records : List Record, bytes = Record.stream records ++ later ∧
      (∀ record ∈ records, record.tag = RecordType.handshake.tag) ∧
      ∀ later', Verifies config suite (Record.stream records ++ later') flight later' := by
  obtain ⟨hkeys, hhello, middle, hlead, hcontinues, hfinishes, hleads⟩ := h
  let epoch := flight.keys.suite.epoch .handshake flight.secrets.server
  let messages : List Record :=
    (flight.messages ++ [flight.finished]).map (epoch.stamp .handshake)
  obtain ⟨fits, rfl⟩ := Record.leads_iff.1 hlead
  obtain ⟨hfits, rfl⟩ := Record.leadAll_iff.1 hleads
  refine ⟨Epoch.stamp {} .handshake flight.serverHello :: messages, ?_, ?_, fun later' => ?_⟩
  · rw [Record.stream_cons, List.append_assoc]
  · rw [List.forall_mem_cons]
    refine ⟨rfl, fun record hrecord => ?_⟩
    obtain ⟨data, -, rfl⟩ := List.mem_map.1 hrecord
    rfl
  · rw [Record.stream_cons, List.append_assoc]
    exact ⟨hkeys, hhello, _, Record.leads_iff.2 ⟨fits, rfl⟩, hcontinues, hfinishes,
      Record.leadAll_iff.2 ⟨hfits, rfl⟩⟩

/-- The records that a client has read when it returns: the flight, and the answer to
its ping. -/
structure Returned (bytes : Bytes) (summary : Summary) (rest : Bytes) (flight : List Record)
    (answer : Record) : Prop where
  bytes : bytes = Record.stream (flight ++ [answer]) ++ rest
  handshake : ∀ record ∈ flight, record.tag = RecordType.handshake.tag
  typed : answer.Typed
  level : answer.level = Level.application.code
  data : answer.data = summary.applicationData

/-- A client that returns would have returned the same with an answer of any type. -/
theorem returns_retyped (fits : config.Fits suite count)
    (stands : ∀ bytes, Party.Stands (script config) true (atStart suite bytes) client
      { incoming := { queue := bytes, writerClosed := true }, port })
    (h : Party.Returns (script config) client port bytes summary rest sent) :
    ∃ flight answer, Returned bytes summary rest flight answer ∧
      ∀ other, answer.Retyped other → ∀ rest',
        Party.Returns (script config) client port (Record.stream (flight ++ [other]) ++ rest')
          summary rest' sent := by
  obtain ⟨flight, later, type, hverifies, hlead, hcount, hsent⟩ :=
    (returns_iff fits (stands bytes)).1 h
  obtain ⟨records, rfl, hhandshake, hagain⟩ := exists_records_of_verifies hverifies
  let epoch := flight.keys.suite.epoch .application flight.application.server
  have hfits : (epoch.stamp type summary.applicationData).Fits := (Record.leads_iff.1 hlead).1
  have hlater : later = (epoch.stamp type summary.applicationData).bytes ++ rest :=
    (Record.leads_iff.1 hlead).2
  have hsplit : ∀ (answer : Record) (rest : Bytes), Record.stream (records ++ [answer]) ++ rest =
      Record.stream records ++ (answer.bytes ++ rest) := by
    intro answer rest
    rw [Record.stream_append, Record.stream_cons, Record.stream_nil, List.append_nil,
      List.append_assoc]
  refine ⟨records, epoch.stamp type summary.applicationData,
    ⟨by rw [hsplit, hlater], hhandshake, Record.typed_stamp _ _ _, rfl, rfl⟩, fun other hother rest' => ?_⟩
  have hfits' := hother.fits hfits
  obtain ⟨type', rfl⟩ := hother.eq_stamp
  rw [hsplit]
  exact (returns_iff fits (stands _)).2 ⟨flight, _, type', hagain _,
    Record.leads_iff.2 ⟨hfits', rfl⟩, hcount, hsent⟩

end Client

/-! ## The server -/

namespace Server

variable {config : Config} {suite : CipherSuite} {bytes rest sent : Bytes} {summary : Summary}
  {server : Party Stage Summary} {port : Port}

/-- What a server reports when it has taken some early data. -/
def Config.summaryOf (config : Config) (early : List Record) : Summary where
  earlyDataReceived := if config.acceptsEarlyData then config.earlyData.toNat else 0
  earlyDataSkipped := config.skipped early

/-- A server returns on what it verifies and a request, of any type, that it can
answer. -/
theorem returns_iff (hrandom : config.random.length = 32)
    (stands : Party.Stands (script config) true (atStart suite bytes) server
      { incoming := { queue := bytes, writerClosed := true }, port }) :
    Party.Returns (script config) server port bytes summary rest sent ↔
      ∃ talk early later request, Verifies config suite bytes talk early later ∧
        ((talk.keys.suite.epoch .application talk.application.client).stamp
          (Delivery.type request) request.data).Leads later rest ∧
        (talk.reply request.data).Fits ∧ summary = config.summaryOf early ∧
        sent = Record.stream (talk.serverFlight ++ [talk.reply request.data]) := by
  have hreturns : ∀ talk early later (request : Delivery) after,
      Verifies config suite bytes talk early later →
      ((talk.keys.suite.epoch .application talk.application.client).stamp
        request.type request.data).Leads later after → (talk.reply request.data).Fits →
      Party.Returns (script config) server port bytes (config.summaryOf early) after
        (Record.stream (talk.serverFlight ++ [talk.reply request.data])) := by
    intro talk early later request after hverifies hlead hfits
    have hsent : Record.stream (talk.serverFlight ++ [talk.reply request.data]) =
        Record.stream talk.serverFlight ++ (talk.reply request.data).bytes := by
      rw [Record.stream_append, Record.stream_cons, Record.stream_nil, List.append_nil]
    rw [hsent]
    exact Party.returns_of_goes stands
      ((goes_of_verifies hrandom hverifies).trans (goes_done hlead hfits)) rfl
  constructor
  · intro h
    by_cases hverifies : ∃ talk early later, Verifies config suite bytes talk early later
    · obtain ⟨talk, early, later, hverifies⟩ := hverifies
      by_cases hrequest : ∃ (request : Delivery) (after : Bytes),
          ((talk.keys.suite.epoch .application talk.application.client).stamp
            request.type request.data).Leads later after ∧ (talk.reply request.data).Fits
      · obtain ⟨request, after, hlead, hfits⟩ := hrequest
        obtain ⟨rfl, rfl, rfl⟩ :=
          h.unique (hreturns talk early later request after hverifies hlead hfits)
        exact ⟨talk, early, later, request, hverifies, hlead, hfits, rfl, rfl⟩
      · refine absurd h (Party.not_returns_of_stops stands
          ((goes_of_verifies hrandom hverifies).stops
            (stops_request fun request after hlead hfits => ?_)))
        exact hrequest ⟨request, after, hlead, hfits⟩
    · obtain ⟨records, -, hstops⟩ := stops_of_not_verifies false hrandom
        fun talk early later h' => hverifies ⟨talk, early, later, h'⟩
      exact absurd h (Party.not_returns_of_stops stands hstops)
  · intro h
    obtain ⟨talk, early, later, request, hverifies, hlead, hfits, rfl, rfl⟩ := h
    exact hreturns talk early later request rest hverifies hlead hfits

/-- Early data that a server takes may be of any types. -/
theorem takes_retyped {talk : Conversation} {early others : List Record}
    (htakes : config.Takes talk early) (h : List.Forall₂ Retyped early others) :
    config.Takes talk others := by
  rw [Config.Takes] at htakes ⊢
  split at htakes
  next haccepts =>
    obtain ⟨deliveries, hlength, rfl⟩ := htakes
    obtain ⟨deliveries', hlength', rfl⟩ := Record.exists_recordsOf h
    rw [if_pos haccepts]
    exact ⟨deliveries', hlength'.trans hlength, rfl⟩
  next haccepts =>
    rw [if_neg haccepts]
    split at htakes
    next hzero =>
      subst htakes
      rw [if_pos hzero]
      cases h
      rfl
    next hsome =>
      rw [if_neg hsome]
      refine Record.forall_of_retyped h (fun record other hretyped hlevel => ?_) htakes
      rw [hretyped.level]
      exact hlevel

/-- The same early data is reported. -/
theorem summary_retyped {early others : List Record} (h : List.Forall₂ Retyped early others) :
    config.summaryOf others = config.summaryOf early := by
  rw [Config.summaryOf, Config.summaryOf, Config.skipped, Config.skipped, h.length_eq]

/-- What a server verifies is a handshake record, early data, and another handshake
record.  The early data may be of any types, and anything may follow. -/
theorem exists_records_of_verifies {talk : Conversation} {early : List Record} {later : Bytes}
    (h : Verifies config suite bytes talk early later) :
    ∃ hello finished : Record, bytes = Record.stream (hello :: (early ++ [finished])) ++ later ∧
      hello.tag = RecordType.handshake.tag ∧ finished.tag = RecordType.handshake.tag ∧
      ∀ others, List.Forall₂ Retyped early others → ∀ later',
        Verifies config suite (Record.stream (hello :: (others ++ [finished])) ++ later') talk others
          later' := by
  obtain ⟨hanswers, htakes, data, hfinishes, hleads⟩ := h
  obtain ⟨fits, hbytes⟩ := Record.leadAll_iff.1 hleads
  refine ⟨_, _, hbytes, rfl, rfl, fun others hothers later' => ?_⟩
  refine ⟨hanswers, takes_retyped htakes hothers, data, hfinishes, Record.leadAll_iff.2 ⟨?_, rfl⟩⟩
  obtain ⟨hhello, hrest⟩ := List.forall_mem_cons.1 fits
  obtain ⟨hearly, hfinished⟩ := List.forall_mem_append.1 hrest
  refine List.forall_mem_cons.2 ⟨hhello, List.forall_mem_append.2 ⟨?_, hfinished⟩⟩
  exact Record.forall_of_retyped hothers (fun _ _ hretyped => hretyped.fits) hearly

/-- The records that a server has read when it returns, and what it has answered to
the last of them. -/
structure Returned (config : Config) (bytes : Bytes) (summary : Summary) (rest sent : Bytes)
    (hello : Record) (early : List Record) (finished request : Record) : Prop where
  bytes : bytes = Record.stream (hello :: (early ++ [finished, request])) ++ rest
  hello : hello.tag = RecordType.handshake.tag
  early : config.acceptsEarlyData = true → summary.earlyDataReceived = early.length ∧
    ∀ record ∈ early, record.Typed ∧ record.level = Level.earlyData.code
  finished : finished.tag = RecordType.handshake.tag
  typed : request.Typed
  level : request.level = Level.application.code
  echo : ∃ records reply, sent = Record.stream (records ++ [reply]) ∧
    reply.data = request.data ++ pongSuffix

/-- A server that returns would have returned the same with early data and a request
of any types. -/
theorem returns_retyped (hrandom : config.random.length = 32)
    (stands : ∀ bytes, Party.Stands (script config) true (atStart suite bytes) server
      { incoming := { queue := bytes, writerClosed := true }, port })
    (h : Party.Returns (script config) server port bytes summary rest sent) :
    ∃ hello early finished request,
      Returned config bytes summary rest sent hello early finished request ∧
      ∀ others other, List.Forall₂ Retyped early others → request.Retyped other → ∀ rest',
        Party.Returns (script config) server port
          (Record.stream (hello :: (others ++ [finished, other])) ++ rest') summary rest' sent := by
  obtain ⟨talk, early, later, request, hverifies, hlead, hreply, rfl, rfl⟩ :=
    (returns_iff hrandom (stands bytes)).1 h
  obtain ⟨hello, finished, rfl, hhello, hfinished, hagain⟩ := exists_records_of_verifies hverifies
  let epoch := talk.keys.suite.epoch .application talk.application.client
  have hfits : (epoch.stamp request.type request.data).Fits := (Record.leads_iff.1 hlead).1
  have hlater : later = (epoch.stamp request.type request.data).bytes ++ rest :=
    (Record.leads_iff.1 hlead).2
  have hsplit : ∀ (early : List Record) (request : Record) (rest : Bytes),
      Record.stream (hello :: (early ++ [finished, request])) ++ rest =
        Record.stream (hello :: (early ++ [finished])) ++ (request.bytes ++ rest) := by
    intro early request rest
    simp only [Record.stream_cons, Record.stream_append, Record.stream_nil, List.append_nil,
      List.append_assoc]
  refine ⟨hello, early, finished, epoch.stamp request.type request.data,
    ⟨by rw [hsplit, hlater], hhello, fun haccepts => ?_, hfinished, Record.typed_stamp _ _ _, rfl,
      ⟨talk.serverFlight, talk.reply request.data, rfl, rfl⟩⟩, ?_⟩
  · have htakes := hverifies.takes
    rw [Config.Takes, if_pos haccepts] at htakes
    obtain ⟨deliveries, hlength, rfl⟩ := htakes
    constructor
    · rw [recordsOf, List.length_map, hlength, Config.summaryOf, if_pos haccepts]
    · intro record hrecord
      obtain ⟨delivery, -, rfl⟩ := List.mem_map.1 hrecord
      exact ⟨Record.typed_stamp _ _ _, rfl⟩
  · intro others other hothers hother rest'
    have hfits' := hother.fits hfits
    obtain ⟨type', rfl⟩ := hother.eq_stamp
    rw [hsplit]
    exact (returns_iff hrandom (stands _)).2 ⟨talk, others, _, { type := type', data := request.data },
      hagain others hothers _, Record.leads_iff.2 ⟨hfits', rfl⟩, hreply,
      (summary_retyped hothers).symm, rfl⟩

end Server

/-! ## Both sides -/

section

variable {logs : Bool} {log : KeyLog} {port : Port}

/-- Neither side looks at the type of a record that it takes for application data.

Whenever a client returns, it has read a flight in handshake records and one more
record of level 3, whose data it reports; with an answer of any other type it would
have returned the same and sent the same.  Whenever a server returns, it has read its
two handshake messages in handshake records, as many records of level 1 as it counts
if it accepts early data, and one more record of level 3, which it echoes; with early
data and a request of any other types it would have returned and answered the same. -/
theorem application_data_of_any_type (suite : CipherSuite) (random : Bytes)
    (husable : logs = true → log.fault = none) (steady : port.Steady)
    (hwrites : port.writeFault = none) :
    (∀ (config : Client.Config) (count : Nat), config.Fits suite count →
      ∃ client, Client.start { side := .client, logs, random } log suite.code = .ok client ∧
        ∀ bytes summary rest sent,
          Party.Returns (Client.script config) client port bytes summary rest sent →
          ∃ flight answer, Client.Returned bytes summary rest flight answer ∧
            ∀ other, answer.Retyped other → ∀ rest',
              Party.Returns (Client.script config) client port
                (Record.stream (flight ++ [other]) ++ rest') summary rest' sent) ∧
    ∀ config : Server.Config, config.random.length = 32 →
      ∃ server, Server.start { side := .server, logs, random } log suite.code = .ok server ∧
        ∀ bytes summary rest sent,
          Party.Returns (Server.script config) server port bytes summary rest sent →
          ∃ hello early finished request,
            Server.Returned config bytes summary rest sent hello early finished request ∧
            ∀ others other, List.Forall₂ Retyped early others → request.Retyped other → ∀ rest',
              Party.Returns (Server.script config) server port
                (Record.stream (hello :: (others ++ [finished, other])) ++ rest') summary rest'
                sent := by
  constructor
  · intro config count fits
    obtain ⟨client, hstart, stands⟩ :=
      Client.exists_start config suite random husable steady hwrites
    exact ⟨client, hstart, fun bytes summary rest sent h => Client.returns_retyped fits stands h⟩
  · intro config hrandom
    obtain ⟨server, hstart, stands⟩ :=
      Server.exists_start config suite random husable steady hwrites
    exact ⟨server, hstart, fun bytes summary rest sent h => Server.returns_retyped hrandom stands h⟩

end

/-! ## Conversations with records of other types -/

/-- The shared secret of the X25519 keys of 32 ones and 32 twos. -/
def onesAndTwos : Bytes :=
  X25519.littleEndian 37870191047867657583432095346284531764084119257177089722230817295622394795822

/-- A server of X25519 that accepts one record of early data. -/
def Server.accepting : Config where
  agreement := x25519
  privateKey := List.replicate 32 2
  random := List.replicate 32 3
  earlyData := 1
  rejectEarlyData := false

theorem Client.fits_eager (suite : CipherSuite) : eager.Fits suite 1 where
  number := rfl
  hello := by decide
  early := fun _ h => room_earlyPayload suite (by omega)

/-- A client takes an honest server's answer in a record of any type. -/
theorem Client.returns_of_conversation {config : Config} {suite : CipherSuite} {count : Nat}
    (fits : config.Fits suite count) {shared : Bytes} {talk : Conversation}
    (hkeys : talk.keys = config.keys suite shared) (hhello : talk.clientHello = config.hello)
    (hshares : config.Shares talk.serverHello shared)
    (hfits : (Epoch.stamp {} .handshake talk.serverHello).Fits) {client : Party Stage Summary}
    {port : Port} {answer : Record} (hanswer : talk.pong.Retyped answer)
    (stands : ∀ bytes, Party.Stands (script config) true (atStart suite bytes) client
      { incoming := { queue := bytes, writerClosed := true }, port }) :
    Party.Returns (script config) client port (Record.stream (talk.serverFlight ++ [answer]))
      { earlyDataSent := count, applicationData := pingPayload ++ pongSuffix } []
      (Record.stream (config.opening suite ++ talk.flight.answer)) := by
  have hpong := hanswer.fits talk.fits_pong
  obtain ⟨type, rfl⟩ := hanswer.eq_stamp
  have hverifies := verifies_of_conversation hkeys hhello hshares hfits
  refine (returns_iff fits (stands _)).2 ⟨talk.flight, _, type, ?_,
    Record.leads_iff.2 ⟨hpong, rfl⟩, rfl, rfl⟩
  rw [Record.stream_append, Record.stream_cons, Record.stream_nil]
  exact hverifies _

/-- A server takes what an honest client sends, with early data of any types. -/
theorem Server.returns_of_conversation {config : Config} {suite : CipherSuite}
    (hrandom : config.random.length = 32) {talk : Conversation}
    (answers : config.Answers suite talk) (hfits : (Epoch.stamp {} .handshake talk.clientHello).Fits)
    {early : List Record} (htakes : config.Takes talk early) (hearly : ∀ record ∈ early, record.Fits)
    {server : Party Stage Summary} {port : Port}
    (stands : ∀ bytes, Party.Stands (script config) true (atStart suite bytes) server
      { incoming := { queue := bytes, writerClosed := true }, port }) :
    Party.Returns (script config) server port
      (Record.stream (Epoch.stamp {} .handshake talk.clientHello :: (early ++ talk.clientFlight)))
      (config.summaryOf early) [] (Record.stream (talk.serverFlight ++ [talk.pong])) := by
  have haccepts := accepts_of_conversation answers hfits htakes hearly []
  rw [List.append_nil] at haccepts
  obtain ⟨later, hverifies, hlead, hreply⟩ := haccepts
  exact (returns_iff hrandom (stands _)).2
    ⟨talk, early, later, { type := .applicationData, data := pingPayload }, hverifies, hlead, hreply,
      rfl, rfl⟩

/-- A ServerHello for the client with a key of 32 ones. -/
theorem Client.exists_hello_for_eager (suite : CipherSuite) :
    ∃ serverHello,
      Message.serverHello (x25519.publicKey (List.replicate 32 2)) suite.code
        (List.replicate 32 3) = .ok serverHello ∧
      (Epoch.stamp {} .handshake serverHello).Fits ∧ eager.Shares serverHello onesAndTwos := by
  obtain ⟨serverHello, message, hhello, hshort, hopens, hcarries⟩ := Message.exists_serverHello
    (x25519.length_publicKey (List.replicate 32 2)) (List.length_replicate : _ = 32) suite
  exact ⟨serverHello, hhello, Epoch.fits_stamp_default .handshake hshort, message, _, hopens, hcarries,
    by decide +kernel⟩

/-- A conversation of the server that accepts early data with a client of X25519. -/
theorem Server.exists_talk_with_accepting (suite : CipherSuite) :
    ∃ talk, accepting.Answers suite talk ∧
      (Epoch.stamp {} .handshake talk.clientHello).Fits := by
  have hrandom : (List.replicate 32 (4 : UInt8)).length = 32 := List.length_replicate
  obtain ⟨clientHello, message, -, hshort, hopens, hcarries⟩ := Message.exists_clientHello
    (x25519.length_publicKey (List.replicate 32 1)) hrandom suite true
  obtain ⟨serverHello, -, hhello, -, -, -⟩ := Message.exists_serverHello
    (x25519.length_publicKey (List.replicate 32 2)) (List.length_replicate : _ = 32) suite
  have hshares : x25519.Shares (List.replicate 32 2) clientHello onesAndTwos :=
    ⟨message, _, hopens, hcarries, by decide +kernel⟩
  exact ⟨{ keys := accepting.keys suite onesAndTwos, clientHello, serverHello, accepted := true },
    ⟨⟨_, hshares, rfl⟩, hhello, rfl⟩, Epoch.fits_stamp_default .handshake hshort⟩

/-- A client reports the data of an alert as application data. -/
theorem Client.returns_data_of_alert :
    ∃ serverHello,
      Message.serverHello (x25519.publicKey (List.replicate 32 2))
        CipherSuite.chacha20Poly1305Sha256.code (List.replicate 32 3) = .ok serverHello ∧
      let talk : Conversation := {
        keys := eager.keys .chacha20Poly1305Sha256 onesAndTwos
        clientHello := eager.hello
        serverHello
        accepted := true }
      let alert : Record := { talk.pong with tag := RecordType.alert.tag }
      ∃ client,
        start { side := .client } {} CipherSuite.chacha20Poly1305Sha256.code = .ok client ∧
        ∃ sent, Party.Returns (script eager) client {} (Record.stream (talk.serverFlight ++ [alert]))
          { earlyDataSent := 1, applicationData := pingPayload ++ pongSuffix } [] sent := by
  obtain ⟨serverHello, hhello, hfits, hshares⟩ := exists_hello_for_eager .chacha20Poly1305Sha256
  refine ⟨serverHello, hhello, ?_⟩
  intro talk alert
  obtain ⟨client, hstart, stands⟩ := exists_start eager .chacha20Poly1305Sha256 []
    (Party.usable_of_silent {}) Port.steady_default rfl
  have halert : talk.pong.Retyped alert := ⟨Record.typed_stamp _ _ _, .alert, rfl⟩
  exact ⟨client, hstart, _,
    returns_of_conversation (fits_eager _) rfl rfl hshares hfits halert stands⟩

/-- An honest server's answer in an alert, and an honest client's early data and ping
in a handshake record and an alert. -/
theorem application_data_of_any_type_of_conversations :
    (∃ client, Client.start { side := .client } {} CipherSuite.aes128GcmSha256.code = .ok client ∧
      ∃ flight answer sent, answer.tag = RecordType.alert.tag ∧
        Party.Returns (Client.script Client.eager) client {}
          (Record.stream (flight ++ [answer]) ++ [])
          { earlyDataSent := 1, applicationData := pingPayload ++ pongSuffix } [] sent) ∧
    ∃ server, Server.start { side := .server } {} CipherSuite.aes128GcmSha256.code = .ok server ∧
      ∃ hello early finished request sent, early.tag = RecordType.handshake.tag ∧
        request.tag = RecordType.alert.tag ∧
        Party.Returns (Server.script Server.accepting) server {}
          (Record.stream (hello :: ([early] ++ [finished, request])) ++ [])
          { earlyDataReceived := 1, earlyDataSkipped := 0 } [] sent := by
  obtain ⟨hclient, hserver⟩ := application_data_of_any_type .aes128GcmSha256 []
    (Party.usable_of_silent {}) Port.steady_default rfl
  constructor
  · obtain ⟨serverHello, -, hfits, hshares⟩ := Client.exists_hello_for_eager .aes128GcmSha256
    let talk : Conversation :=
      { keys := Client.eager.keys .aes128GcmSha256 onesAndTwos, clientHello := Client.eager.hello
        serverHello, accepted := true }
    obtain ⟨client, hstart, hretyped⟩ := hclient Client.eager 1 (Client.fits_eager _)
    obtain ⟨client', hstart', stands⟩ := Client.exists_start Client.eager .aes128GcmSha256 []
      (Party.usable_of_silent {}) Port.steady_default rfl
    obtain rfl := Except.ok.inj (hstart'.symm.trans hstart)
    have hsame : talk.pong.Retyped talk.pong := ⟨Record.typed_stamp _ _ _, .applicationData, rfl⟩
    have hreturns :=
      Client.returns_of_conversation (Client.fits_eager _) rfl rfl hshares hfits hsame stands
    obtain ⟨flight, answer, hread, hany⟩ := hretyped _ _ _ _ hreturns
    exact ⟨client', hstart, flight, { answer with tag := RecordType.alert.tag }, _, rfl,
      hany _ ⟨hread.typed, .alert, rfl⟩ []⟩
  · obtain ⟨talk, answers, hfits⟩ := Server.exists_talk_with_accepting .aes128GcmSha256
    let record : Record :=
      (Client.earlyEpoch talk.keys.suite talk.clientHello).stamp .applicationData (earlyPayload 0)
    have htakes : Server.accepting.Takes talk [record] :=
      ⟨[{ type := .applicationData, data := earlyPayload 0 }], rfl, rfl⟩
    have hearly : ∀ other ∈ [record], other.Fits :=
      List.forall_mem_singleton.2 (Conversation.fits_of_length_le .earlyData .applicationData
        (KeyTree.length_expand ..) (by decide))
    obtain ⟨server, hstart, hretyped⟩ := hserver Server.accepting rfl
    obtain ⟨server', hstart', stands⟩ := Server.exists_start Server.accepting .aes128GcmSha256 []
      (Party.usable_of_silent {}) Port.steady_default rfl
    obtain rfl := Except.ok.inj (hstart'.symm.trans hstart)
    have hreturns := Server.returns_of_conversation rfl answers hfits htakes hearly stands
    obtain ⟨hello, early, finished, request, hread, hany⟩ := hretyped _ _ _ _ hreturns
    obtain ⟨hcount, hearlyTyped⟩ := hread.early rfl
    obtain ⟨first, rfl⟩ : ∃ first, early = [first] := List.length_eq_one_iff.1 hcount.symm
    have hfirst : List.Forall₂ Retyped [first] [{ first with tag := RecordType.handshake.tag }] :=
      .cons ⟨(hearlyTyped first List.mem_cons_self).1, .handshake, rfl⟩ .nil
    exact ⟨server', hstart, hello, _, finished, { request with tag := RecordType.alert.tag }, _, rfl,
      rfl, hany _ _ hfirst ⟨hread.typed, .alert, rfl⟩ []⟩

end RecordLayer
