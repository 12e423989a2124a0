import Mathlib.Tactic.Common
import RecordLayer.Proofs.ClientRuns
import RecordLayer.Proofs.Progress
import RecordLayer.Proofs.ServerRuns

/-!
# Restraint

Neither side sends anything that belongs behind the handshake before it has
verified the Finished message of its peer, whatever the peer sends and however
the run ends (`finished_before_application_data`).

The run of a side has a mark, where it has just verified that message.  What a
client has sent there is its opening, and what a server has sent there is its
flight (`Client.goes_of_verifies`, `Server.goes_of_verifies`).  At any point of
the run either no more than that has been sent, or the mark has been passed and
the message has been read (`Party.before_or_behind`).
-/

namespace RecordLayer

/-! ## The client -/

namespace Client

/-- What a client sends unasked: its ClientHello and its early data. -/
def Config.opening (config : Config) (suite : CipherSuite) : List Record :=
  Epoch.stamp {} .handshake config.hello ::
    (List.range config.earlyData.toNat).map (earlyRecord (earlyEpoch suite config.hello))

/-- The wire of a client that has sent no more than its opening, or has read a
flight that it has verified and sent no more than its answer behind that. -/
def Restrained (config : Config) (suite : CipherSuite) (bytes : Bytes) (wire : Wire) : Prop :=
  (∃ sent, sent <+: config.opening suite ∧ wire.outgoing.queue = Record.stream sent) ∨
  ∃ flight later, Verifies config suite bytes flight later ∧ wire.incoming.queue <:+ later ∧
    ∃ sent, sent <+: config.opening suite ++ flight.answer ∧
      wire.outgoing.queue = Record.stream sent

/-- All that a client with `count` records of early data sends unasked fits its
records. -/
structure Config.Fits (config : Config) (suite : CipherSuite) (count : Nat) : Prop where
  number : config.earlyData = count
  hello : config.hello.length ≤ maxRecordLength
  early : ∀ index < count, suite.hash.size + (earlyPayload index).length ≤ maxRecordLength

variable {config : Config} {suite : CipherSuite} {count : Nat} {view : Session.View}

theorem fits_of_mem_opening (fits : config.Fits suite count) {record : Record}
    (h : record ∈ config.opening suite) : record.Fits := by
  rcases List.mem_cons.1 h with rfl | h
  · exact Epoch.fits_stamp_default .handshake (Nat.lt_succ_of_le fits.hello)
  · obtain ⟨index, hindex, rfl⟩ := List.mem_map.1 h
    rw [fits.number, Int.toNat_natCast, List.mem_range] at hindex
    apply CipherSuite.fits_stamp
    rw [KeyTree.earlyTraffic, KeyTree.length_expand]
    exact Nat.lt_succ_of_le (fits.early index hindex)

theorem fits_of_mem_answer {flight : Flight} {record : Record} (h : record ∈ flight.answer) :
    record.Fits := by
  simp only [Flight.answer, List.mem_cons, List.not_mem_nil, or_false] at h
  rcases h with rfl | rfl
  · exact @fits_clientFinished { suite := flight.keys.suite } flight
  · apply CipherSuite.fits_stamp
    have hsize := length_application_le flight
    have hping : pingPayload.length = 4 := rfl
    omega

/-- A client sends its opening. -/
theorem goes_opening {final : Bool} {unread : Bytes} (fits : config.Fits suite count) :
    Party.Goes (script config) final { stage := .hello, view := { suite }, unread, sent := [] }
      { stage := .serverHello, view := helloView config suite, unread
        sent := Record.stream (config.opening suite) } := by
  have hopening : Record.stream (config.opening suite) =
      [] ++ (Epoch.stamp {} .handshake config.hello).bytes ++
        Record.stream ((List.range count).map (earlyRecord (helloView config suite).write)) := by
    have hcount := fits.number
    rw [Config.opening, Record.stream_cons, hcount, Int.toNat_natCast, List.nil_append, helloView]
    split
    next hzero =>
      obtain rfl : count = 0 := by omega
      rfl
    next => rfl
  rw [hopening]
  exact goes_hello fits.number (Nat.lt_succ_of_le fits.hello)
    fun index hindex => Nat.lt_succ_of_le (fits.early index hindex)

/-- A client that waits for the answer to its ping sends nothing more. -/
theorem ends_pong {unread sent : Bytes} (hskipping : view.skipping = false) :
    Party.Ends (script config) true { stage := .pong, view, unread, sent } sent := by
  by_cases h : ∃ type data rest, (view.read.stamp type data).Leads unread rest
  · obtain ⟨type, data, rest, hlead⟩ := h
    have hgoes : Party.Goes (script config) true { stage := .pong, view, unread, sent }
        { stage := .done data, view, unread := rest, sent } :=
      Party.goes_receive_next rfl hskipping hlead (Session.gives_pure _)
    exact hgoes.ends (Party.ends_of_enter rfl)
  · refine Party.Stops.ends (Party.stops_of_nothing rfl fun dropped delivery rest hreceives => ?_)
    exact h ⟨_, _, rest, hreceives.leads_of_not_skipping hskipping⟩

/-- A client comes to the mark of its run on a flight that it verifies. -/
theorem goes_mark {final : Bool} (fits : config.Fits suite count)
    {bytes later : Bytes} {flight : Flight} (h : Verifies config suite bytes flight later) :
    Party.Goes (script config) final
      { stage := .hello, view := { suite }, unread := bytes, sent := [] }
      { stage := .finished flight.application flight.clientFinished
        view := verifiedView (helloView config suite) flight, unread := later
        sent := Record.stream (config.opening suite) } :=
  (goes_opening fits).trans (goes_of_verifies rfl (helloView_earlyOr config suite) rfl rfl h)

/-- Behind the mark it sends its answer and nothing else. -/
theorem ends_mark {bytes later : Bytes} {flight : Flight}
    (h : Verifies config suite bytes flight later) :
    Party.Ends (script config) true
      { stage := .finished flight.application flight.clientFinished
        view := verifiedView (helloView config suite) flight, unread := later
        sent := Record.stream (config.opening suite) }
      (Record.stream (config.opening suite ++ flight.answer)) := by
  obtain ⟨shared, -, hkeys⟩ := h.keys
  have hsuite : (helloView config suite).suite = flight.keys.suite := (congrArg Keys.suite hkeys).symm
  rw [Record.stream_append]
  exact (goes_answer hsuite).ends (ends_pong rfl)

/-- Without a flight to verify it sends its opening and nothing else. -/
theorem stops_of_none (fits : config.Fits suite count)
    {bytes : Bytes} (h : ∀ flight later, ¬Verifies config suite bytes flight later) :
    Party.Stops (script config) true
      { stage := .hello, view := { suite }, unread := bytes, sent := [] }
      (Record.stream (config.opening suite)) :=
  (goes_opening fits).stops (stops_of_not_verifies rfl (helloView_earlyOr config suite) rfl rfl h)

/-- A client is restrained at every point of its run. -/
theorem restrained_of_reaches (fits : config.Fits suite count)
    {bytes : Bytes} {client : Party Stage Summary} {wire : Wire}
    (stands : Party.Stands (script config) true
      { stage := .hello, view := { suite }, unread := bytes, sent := [] } client wire)
    {point : Party Stage Summary × Wire}
    (hreach : Party.Reaches (script config) (client, wire) point) :
    Restrained config suite bytes point.2 := by
  have hfits : ∀ record ∈ config.opening suite, record.Fits :=
    fun record h => fits_of_mem_opening fits h
  by_cases hverifies : ∃ flight later, Verifies config suite bytes flight later
  · obtain ⟨flight, later, hverifies⟩ := hverifies
    have hall : ∀ record ∈ config.opening suite ++ flight.answer, record.Fits := by
      intro record hrecord
      rcases List.mem_append.1 hrecord with h | h
      · exact hfits record h
      · exact fits_of_mem_answer h
    rcases Party.before_or_behind stands rfl (goes_mark fits hverifies) rfl hfits
      (ends_mark hverifies) hall hreach with h | h
    · exact Or.inl h
    · exact Or.inr ⟨flight, later, hverifies, h⟩
  · have hstops := stops_of_none fits fun flight later h => hverifies ⟨flight, later, h⟩
    exact Or.inl (Party.exists_prefix_of_ends stands rfl hfits hstops.ends hreach)

end Client

/-! ## The server -/

namespace Server

/-- The wire of a server that has sent whole records.  Only the last of them may
be of level 3, which is application data, and then the server has read a
Finished message that it has verified. -/
def Restrained (config : Config) (suite : CipherSuite) (bytes : Bytes) (wire : Wire) : Prop :=
  ∃ sent : List Record, wire.outgoing.queue = Record.stream sent ∧
    (∀ record ∈ sent, record.Fits) ∧ (∀ record ∈ sent.dropLast, record.level ≠ 3) ∧
    ((∃ record ∈ sent, record.level = 3) →
      ∃ talk early later, Verifies config suite bytes talk early later ∧
        wire.incoming.queue <:+ later)

variable {config : Config} {suite : CipherSuite} {bytes : Bytes}

/-- A server that has sent nothing of level 3 is restrained. -/
theorem restrained_of_handshake {wire : Wire} {sent all : List Record} (hinitial : sent <+: all)
    (hall : ∀ record ∈ all, record.Fits ∧ record.level ≠ 3)
    (hsent : wire.outgoing.queue = Record.stream sent) : Restrained config suite bytes wire := by
  have hmem : ∀ record ∈ sent, record ∈ all := fun record h => hinitial.subset h
  refine ⟨sent, hsent, fun record h => (hall record (hmem record h)).1, fun record h => ?_, ?_⟩
  · exact (hall record (hmem record (List.dropLast_subset sent h))).2
  · intro h
    obtain ⟨record, hrecord, hlevel⟩ := h
    exact absurd hlevel (hall record (hmem record hrecord)).2

/-- Behind the Finished message a server sends one record at most. -/
theorem ends_request {closes : Bool} {talk : Conversation} (skipped : Nat) (later sent : Bytes) :
    ∃ answer : List Record, answer.length ≤ 1 ∧ (∀ record ∈ answer, record.Fits) ∧
      Party.Ends (scriptThat config closes) true
        { stage := .request skipped, view := requestView config talk skipped, unread := later, sent }
        (sent ++ Record.stream answer) := by
  by_cases h : ∃ (request : Delivery) (rest : Bytes),
      ((talk.keys.suite.epoch .application talk.application.client).stamp
        request.type request.data).Leads later rest ∧ (talk.reply request.data).Fits
  · obtain ⟨request, rest, hlead, hfits⟩ := h
    refine ⟨[talk.reply request.data], Nat.le_refl 1, by simpa using hfits, ?_⟩
    rw [Record.stream_cons, Record.stream_nil, List.append_nil]
    exact (goes_done hlead hfits).ends (Party.ends_of_enter rfl)
  · refine ⟨[], Nat.zero_le 1, by simp, ?_⟩
    rw [Record.stream_nil, List.append_nil]
    exact Party.Stops.ends
      (stops_request fun request rest hlead hfits => h ⟨request, rest, hlead, hfits⟩)

/-- The records before the last one of a flight and an answer to it are of the flight. -/
theorem mem_of_mem_dropLast {sent flight answer : List Record} (hinitial : sent <+: flight ++ answer)
    (hanswer : answer.length ≤ 1) {record : Record} (h : record ∈ sent.dropLast) :
    record ∈ flight := by
  cases answer with
  | nil =>
    rw [List.append_nil] at hinitial
    exact hinitial.subset (List.dropLast_subset sent h)
  | cons last others =>
    obtain rfl : others = [] := List.length_eq_zero_iff.1 (by simpa using hanswer)
    rcases List.prefix_concat_iff.1 hinitial with rfl | hflight
    · rw [List.dropLast_concat] at h
      exact h
    · exact hflight.subset (List.dropLast_subset sent h)

/-- A server is restrained at every point of its run, and the run ends. -/
theorem restrained_of_reaches {closes : Bool} (hrandom : config.random.length = 32)
    {server : Party Stage Summary} {wire : Wire}
    (stands : Party.Stands (scriptThat config closes) true
      { stage := .clientHello, view := { suite }, unread := bytes, sent := [] } server wire) :
    (∀ point, Party.Reaches (scriptThat config closes) (server, wire) point →
      Restrained config suite bytes point.2) ∧
    let final := Party.run (scriptThat config closes) server wire
    Party.Reaches (scriptThat config closes) (server, wire) final ∧
      ∃ result, final.1.status = .ended result := by
  by_cases hverifies : ∃ talk early later, Verifies config suite bytes talk early later
  · obtain ⟨talk, early, later, hverifies⟩ := hverifies
    have hmark : Party.Goes (scriptThat config closes) true
        { stage := .clientHello, view := { suite }, unread := bytes, sent := [] }
        { stage := .request (config.skipped early)
          view := requestView config talk (config.skipped early)
          unread := later, sent := Record.stream talk.serverFlight } :=
      goes_of_verifies hrandom hverifies
    obtain ⟨answer, hanswer, hfits, hends⟩ := ends_request (config.skipped early) later
      (Record.stream talk.serverFlight)
    rw [← Record.stream_append] at hends
    have hflight : ∀ record ∈ talk.serverFlight, record.Fits ∧ record.level ≠ 3 :=
      fun record h => fits_of_mem_serverFlight (hverifies.answers.fits hrandom) h
    have hall : ∀ record ∈ talk.serverFlight ++ answer, record.Fits := by
      intro record hrecord
      rcases List.mem_append.1 hrecord with h | h
      · exact (hflight record h).1
      · exact hfits record h
    refine ⟨fun point hreach => ?_, ?_⟩
    · rcases Party.before_or_behind stands rfl hmark rfl (fun record h => (hflight record h).1)
        hends hall hreach with ⟨sent, hinitial, hsent⟩ | ⟨hunread, sent, hinitial, hsent⟩
      · exact restrained_of_handshake hinitial hflight hsent
      · refine ⟨sent, hsent, fun record h => hall record (hinitial.subset h), fun record h => ?_,
          fun _ => ⟨talk, early, later, hverifies, hunread⟩⟩
        exact (hflight record (mem_of_mem_dropLast hinitial hanswer h)).2
    · obtain ⟨hreach, hended, -⟩ := Party.run_of_ends stands (hmark.ends hends)
      exact ⟨hreach, hended⟩
  · obtain ⟨records, hrecords, hstops⟩ := stops_of_not_verifies closes hrandom
      fun talk early later h => hverifies ⟨talk, early, later, h⟩
    refine ⟨fun point hreach => ?_, ?_⟩
    · obtain ⟨sent, hinitial, hsent⟩ := Party.exists_prefix_of_ends stands rfl
        (fun record h => (hrecords record h).1) hstops.ends hreach
      exact restrained_of_handshake hinitial hrecords hsent
    · obtain ⟨hreach, hended, -⟩ := Party.run_of_ends stands hstops.ends
      exact ⟨hreach, hended⟩

end Server

/-! ## Both sides -/

/-- Whatever bytes come from the peer of a client or a server, and wherever its
run ends, nothing that comes after the handshake is sent before the Finished
message of the peer has been read and verified.  A client has sent exactly its
opening in the end, or exactly its opening, its Finished message and its ping.
A server has sent whole records, of which only the last may be application data. -/
theorem finished_before_application_data (suite : CipherSuite) {logs : Bool} (random : Bytes)
    {log : KeyLog} (husable : logs = true → log.fault = none) {port : Port} (steady : port.Steady)
    (hwrites : port.writeFault = none) (bytes : Bytes) :
    let wire : Wire := { incoming := { queue := bytes, writerClosed := true }, port }
    (∀ (config : Client.Config) (count : Nat), config.Fits suite count →
      ∃ client, Client.start { side := .client, logs, random } log suite.code = .ok client ∧
        (∀ point, Party.Reaches (Client.script config) (client, wire) point →
          Client.Restrained config suite bytes point.2) ∧
        let final := Party.run (Client.script config) client wire
        Party.Reaches (Client.script config) (client, wire) final ∧
          (∃ result, final.1.status = .ended result) ∧
          (∀ flight later, Client.Verifies config suite bytes flight later →
            final.2.outgoing.queue = Record.stream (config.opening suite ++ flight.answer)) ∧
          ((¬∃ flight later, Client.Verifies config suite bytes flight later) →
            final.2.outgoing.queue = Record.stream (config.opening suite))) ∧
    (∀ config : Server.Config, config.random.length = 32 →
      ∃ server, Server.start { side := .server, logs, random } log suite.code = .ok server ∧
        (∀ point, Party.Reaches (Server.script config) (server, wire) point →
          Server.Restrained config suite bytes point.2) ∧
        let final := Party.run (Server.script config) server wire
        Party.Reaches (Server.script config) (server, wire) final ∧
          ∃ result, final.1.status = .ended result) := by
  intro wire
  constructor
  · intro config count fits
    obtain ⟨client, hstart, stands⟩ :=
      Client.exists_start config suite random husable steady hwrites
    refine ⟨client, hstart, fun point => Client.restrained_of_reaches fits (stands bytes), ?_⟩
    intro final
    have hverified : ∀ flight later, Client.Verifies config suite bytes flight later →
        Party.Reaches (Client.script config) (client, wire) final ∧
        (∃ result, final.1.status = .ended result) ∧
        final.2.outgoing.queue = Record.stream (config.opening suite ++ flight.answer) :=
      fun flight later h => Party.run_of_ends (stands bytes)
        ((Client.goes_mark fits h).ends (Client.ends_mark h))
    by_cases hverifies : ∃ flight later, Client.Verifies config suite bytes flight later
    · obtain ⟨flight, later, h⟩ := hverifies
      obtain ⟨hreach, hended, -⟩ := hverified flight later h
      exact ⟨hreach, hended, fun flight later h => (hverified flight later h).2.2,
        fun hnone => absurd ⟨flight, later, h⟩ hnone⟩
    · obtain ⟨hreach, hended, hsent⟩ := Party.run_of_ends (stands bytes)
        (Client.stops_of_none fits fun flight later h => hverifies ⟨flight, later, h⟩).ends
      exact ⟨hreach, hended, fun flight later h => absurd ⟨flight, later, h⟩ hverifies,
        fun _ => hsent⟩
  · intro config hrandom
    obtain ⟨server, hstart, stands⟩ :=
      Server.exists_start config suite random husable steady hwrites
    exact ⟨server, hstart, Server.restrained_of_reaches hrandom (stands bytes)⟩

/-- The flight of an honest server: a client has sent its opening and its
answer in the end, and another server is restrained on the same bytes. -/
theorem finished_before_application_data_of_conversation :
    ∃ serverHello,
      Message.serverHello (x25519.publicKey (List.replicate 32 2))
        CipherSuite.chacha20Poly1305Sha256.code (List.replicate 32 3) = .ok serverHello ∧
      let talk : Conversation := {
        keys := Client.eager.keys .chacha20Poly1305Sha256 (X25519.littleEndian
          37870191047867657583432095346284531764084119257177089722230817295622394795822)
        clientHello := Client.eager.hello
        serverHello
        accepted := true }
      let bytes := Record.stream talk.serverFlight
      let wire : Wire := { incoming := { queue := bytes, writerClosed := true } }
      (∃ client,
        Client.start { side := .client } {} CipherSuite.chacha20Poly1305Sha256.code = .ok client ∧
        (Party.run (Client.script Client.eager) client wire).2.outgoing.queue =
          Record.stream (Client.eager.opening .chacha20Poly1305Sha256 ++ talk.clientFlight)) ∧
      ∃ server,
        Server.start { side := .server } {} CipherSuite.chacha20Poly1305Sha256.code = .ok server ∧
        Server.Restrained Server.rejecting .chacha20Poly1305Sha256 bytes
          (Party.run (Server.script Server.rejecting) server wire).2 := by
  obtain ⟨serverHello, message, hhello, hshort, hopens, hcarries⟩ := Message.exists_serverHello
    (x25519.length_publicKey (List.replicate 32 2)) (List.length_replicate : _ = 32)
    .chacha20Poly1305Sha256
  refine ⟨serverHello, hhello, ?_⟩
  intro talk bytes wire
  have hshares : Client.eager.Shares serverHello (X25519.littleEndian
      37870191047867657583432095346284531764084119257177089722230817295622394795822) :=
    ⟨message, _, hopens, hcarries, by decide +kernel⟩
  have hverifies : Client.Verifies Client.eager .chacha20Poly1305Sha256
      (Record.stream talk.serverFlight ++ []) talk.flight [] :=
    Client.verifies_of_conversation rfl rfl hshares (Epoch.fits_stamp_default .handshake hshort) []
  rw [List.append_nil] at hverifies
  obtain ⟨hclient, hserver⟩ := finished_before_application_data .chacha20Poly1305Sha256 []
    (Party.usable_of_silent {}) Port.steady_default rfl bytes
  constructor
  · have fits : Client.eager.Fits .chacha20Poly1305Sha256 1 :=
      ⟨rfl, by decide, fun index h => Client.room_earlyPayload _ (by omega)⟩
    obtain ⟨client, hstart, -, -, -, hsent, -⟩ := hclient Client.eager 1 fits
    exact ⟨client, hstart, hsent talk.flight [] hverifies⟩
  · obtain ⟨server, hstart, hpoints, hreach, -⟩ := hserver Server.rejecting rfl
    exact ⟨server, hstart, hpoints _ hreach⟩

end RecordLayer
