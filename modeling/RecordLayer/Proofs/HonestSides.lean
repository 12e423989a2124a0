import Mathlib.Tactic.Common
import RecordLayer.Proofs.ClientAcceptance
import RecordLayer.Proofs.ServerAcceptance

/-!
# Honest sides

Two sides that share a secret go through their scripts on what the other one
sends: the client from the ServerHello to its Finished message
(`Client.goes_clientFinished`) and on to its ping (`Client.goes_pong`), the
server from the ClientHello to the client's Finished message
(`Server.Config.Answers.goes_clientFinished`) and from there to its end
(`Server.goes_done_of_clientFlight`).
-/

namespace RecordLayer

/-! ## The client -/

namespace Client

variable {config : Config} {final : Bool} {view : Session.View} {talk : Conversation}

/-- The view of a client that waits for the answer to its ping. -/
def pongView (config : Config) (talk : Conversation) : Session.View :=
  pingView (verifiedView (helloView config talk.keys.suite) talk.flight) talk.application

/-- A client verifies the flight of an honest server. -/
theorem verifies_of_conversation {suite : CipherSuite} {shared : Bytes}
    (hkeys : talk.keys = config.keys suite shared) (hhello : talk.clientHello = config.hello)
    (hshares : config.Shares talk.serverHello shared)
    (hfits : (Epoch.stamp {} .handshake talk.serverHello).Fits) (rest : Bytes) :
    Verifies config suite (Record.stream talk.serverFlight ++ rest) talk.flight rest := by
  let later : List Record :=
    (Message.scriptedFlight talk.accepted ++ [talk.serverFinished]).map talk.serverRecord
  have hlater : ∀ record ∈ later, record.Fits := by
    intro record hrecord
    obtain ⟨data, hdata, rfl⟩ := List.mem_map.1 hrecord
    exact talk.fits_serverRecord hdata
  have hfirst : (Epoch.stamp {} .handshake talk.serverHello).Leads
      (Record.stream talk.serverFlight ++ rest) (Record.stream later ++ rest) := by
    refine Record.leads_iff.2 ⟨hfits, ?_⟩
    rw [Conversation.serverFlight, Record.stream_cons, List.append_assoc]
  refine ⟨⟨shared, hshares, hkeys⟩, hhello, _, hfirst, ?_, ?_, Record.leadAll_iff.2 ⟨hlater, rfl⟩⟩
  · exact fun data h => (Message.opens_of_mem_scriptedFlight h).2
  · exact Conversation.opens_finished talk.keys talk.secrets.server talk.messages

/-- On the server's flight the client goes on to its Finished message. -/
theorem goes_clientFinished {suite : CipherSuite} {shared : Bytes}
    (hkeys : talk.keys = config.keys suite shared) (hhello : talk.clientHello = config.hello)
    (hshares : config.Shares talk.serverHello shared)
    (hfits : (Epoch.stamp {} .handshake talk.serverHello).Fits) {sent : Bytes} :
    Party.Goes (script config) final
      { stage := .serverHello, view := helloView config suite
        unread := Record.stream talk.serverFlight, sent }
      { stage := .finished talk.application talk.clientFinished
        view := verifiedView (helloView config talk.keys.suite) talk.flight, unread := [], sent } := by
  have hsuite : suite = talk.keys.suite := (congrArg Keys.suite hkeys).symm
  subst hsuite
  have hverifies := verifies_of_conversation hkeys hhello hshares hfits []
  rw [List.append_nil] at hverifies
  exact goes_of_verifies rfl (helloView_earlyOr config talk.keys.suite) rfl rfl hverifies

/-- The client sends its Finished message and its ping. -/
theorem goes_pong {unread sent : Bytes} :
    Party.Goes (script config) final
      { stage := .finished talk.application talk.clientFinished
        view := verifiedView (helloView config talk.keys.suite) talk.flight, unread, sent }
      { stage := .pong, view := pongView config talk, unread
        sent := sent ++ Record.stream talk.clientFlight } := by
  have hsuite : (helloView config talk.keys.suite).suite = talk.flight.keys.suite := rfl
  exact goes_answer hsuite

end Client

/-! ## The server -/

namespace Server

variable {config : Config} {closes final : Bool} {suite : CipherSuite} {talk : Conversation}
  {count : Nat}

/-- An honest server answers its client. -/
theorem answers_of_conversation {shared key : Bytes} {message : Message}
    (hkeys : talk.keys = config.keys suite shared)
    (haccepts : talk.accepted = config.acceptsEarlyData)
    (hopens : Message.Opens talk.clientHello message) (hcarries : message.Carries key)
    (hshared : config.agreement.exchange config.privateKey key = .ok shared)
    (hhello : Message.serverHello (config.agreement.publicKey config.privateKey) suite.code
      config.random = .ok talk.serverHello) :
    config.Answers suite talk :=
  ⟨⟨shared, ⟨message, key, hopens, hcarries, hshared⟩, hkeys⟩, hhello, haccepts⟩

/-- A server that accepts early data takes what the client sends. -/
theorem leadAll_earlyRecords (talk : Conversation)
    (hearly : ∀ record ∈ talk.earlyRecords count, record.Fits) (rest : Bytes) :
    ∃ deliveries : List Delivery, deliveries.length = count ∧
      Record.LeadAll (recordsOf (Client.earlyEpoch talk.keys.suite talk.clientHello) deliveries)
        (Record.stream (talk.earlyRecords count) ++ rest) rest := by
  let deliveries : List Delivery :=
    (List.range count).map fun index => { type := .applicationData, data := earlyPayload index }
  have hrecords : recordsOf (Client.earlyEpoch talk.keys.suite talk.clientHello) deliveries =
      talk.earlyRecords count := by
    rw [recordsOf, List.map_map]
    rfl
  refine ⟨deliveries, ?_, ?_⟩
  · rw [List.length_map, List.length_range]
  · rw [hrecords]
    exact Record.leadAll_iff.2 ⟨hearly, rfl⟩

/-- On the ClientHello and early data the server goes on to wait for the
client's Finished message. -/
theorem Config.Answers.goes_clientFinished (answers : config.Answers suite talk)
    (hcount : config.earlyData = count)
    (hfits : (Epoch.stamp {} .handshake talk.clientHello).Fits)
    (hfits' : (Epoch.stamp {} .handshake talk.serverHello).Fits)
    (hearly : ∀ record ∈ talk.earlyRecords count, record.Fits) :
    Party.Goes (scriptThat config closes) final
      { stage := .clientHello, view := { suite }
        unread := (Epoch.stamp {} .handshake talk.clientHello).bytes ++
          Record.stream (talk.earlyRecords count)
        sent := [] }
      { stage := .clientFinished (secretsOf talk) talk.transcript
        view := awaitView config talk
        unread := Record.stream (talk.droppedRecords count)
        sent := Record.stream talk.serverFlight } := by
  have hlead : (Epoch.stamp {} .handshake talk.clientHello).Leads
      ((Epoch.stamp {} .handshake talk.clientHello).bytes ++ Record.stream (talk.earlyRecords count))
      (Record.stream (talk.earlyRecords count)) :=
    Record.leads_iff.2 ⟨hfits, rfl⟩
  refine (goes_of_answers answers hfits' hlead).trans ?_
  rw [stream_serverFlight, Conversation.droppedRecords, answers.accepted]
  cases haccepts : config.acceptsEarlyData with
  | true =>
    obtain ⟨deliveries, hlength, hlead⟩ := leadAll_earlyRecords talk hearly []
    rw [List.append_nil] at hlead
    exact goes_await_of_accepts answers.accepted haccepts (by omega) hlead
  | false => exact goes_await answers.accepted haccepts

/-- The early data that is dropped is early data that the server takes. -/
theorem takes_droppedRecords (haccepts : talk.accepted = config.acceptsEarlyData)
    (hnot : config.acceptsEarlyData = false) (hcount : config.earlyData = count) :
    config.Takes talk (talk.droppedRecords count) := by
  rw [Config.Takes, hnot, Conversation.droppedRecords, haccepts, hnot, if_neg Bool.false_ne_true,
    if_neg Bool.false_ne_true]
  split
  next hzero =>
    obtain rfl : count = 0 := by omega
    rfl
  next =>
    intro record hrecord
    obtain ⟨index, -, rfl⟩ := List.mem_map.1 hrecord
    rfl

/-- The server ends on the client's Finished message and its ping, after
dropping the early data that it has not accepted. -/
theorem goes_done_of_clientFlight (haccepts : talk.accepted = config.acceptsEarlyData)
    (hcount : config.earlyData = count)
    (hearly : ∀ record ∈ talk.earlyRecords count, record.Fits) {sent : Bytes} :
    ∃ view, Party.Goes (scriptThat config closes) final
      { stage := .clientFinished (secretsOf talk) talk.transcript
        view := awaitView config talk
        unread := Record.stream (talk.droppedRecords count) ++ Record.stream talk.clientFlight, sent }
      { stage := .done (talk.droppedRecords count).length
        view, unread := [], sent := sent ++ talk.pong.bytes } := by
  have hfinished : ((awaitView config talk).read.stamp .handshake talk.clientFinished).Leads
      (Record.stream talk.clientFlight) (Record.stream talk.clientFlight.tail) :=
    Record.leads_iff.2 ⟨talk.fits_of_mem_clientFlight List.mem_cons_self, Record.stream_cons _ _⟩
  let ping : Delivery := { type := .applicationData, data := pingPayload }
  have hping : ((talk.keys.suite.epoch .application talk.application.client).stamp
      ping.type ping.data).Leads (Record.stream talk.clientFlight.tail) [] :=
    Record.leads_iff.2 ⟨talk.fits_of_mem_clientFlight (List.mem_cons_of_mem _ List.mem_cons_self),
      Record.stream_cons _ _⟩
  have hreceives : (awaitView config talk).Receives (talk.droppedRecords count)
      { type := .handshake, data := talk.clientFinished }
      (Record.stream (talk.droppedRecords count) ++ Record.stream talk.clientFlight)
      (Record.stream talk.clientFlight.tail) := by
    cases htrue : config.acceptsEarlyData with
    | true =>
      rw [Conversation.droppedRecords, haccepts, htrue, if_pos rfl, Record.stream_nil, List.nil_append]
      exact Session.View.receives_of_leads hfinished
    | false =>
      obtain ⟨hlevels, hskips⟩ :=
        skips_of_takes haccepts htrue (takes_droppedRecords haccepts htrue hcount)
      refine ⟨fun record hrecord => ⟨?_, hlevels record hrecord⟩, hskips, _, rfl, hfinished⟩
      rw [Conversation.droppedRecords, haccepts, htrue, if_neg Bool.false_ne_true] at hrecord
      exact hearly record hrecord
  have hopens := Conversation.opens_finished talk.keys talk.secrets.client talk.transcript
  have hreply : talk.reply ping.data = talk.pong := talk.reply_pingPayload
  refine ⟨requestView config talk (talk.droppedRecords count).length,
    (goes_request hreceives hopens).trans ?_⟩
  rw [← hreply]
  exact goes_done hping (hreply ▸ talk.fits_pong)

end Server

end RecordLayer
