import Mathlib.Tactic.Common
import RecordLayer.KeyAgreement
import RecordLayer.Proofs.HonestSides
import RecordLayer.Proofs.Schedules

/-!
# Exchanges

Two sides that agree on a shared secret come to their ends in whatever order
they do their operations.

One order is enough to show that (`Exchange.Completes.of_reaches`).  It has
few turns (`Exchange.Turns`): the client sends its ClientHello and its early
data, the server its flight, the client its Finished message and its ping, the
server its answer.  A scene (`Exchange.Scene`) is where both sides stand between
two of them.
-/

namespace RecordLayer.Exchange

variable {config : Config} {hello : Bytes}

/-! ## Scenes -/

/-- Where both sides stand. -/
structure Scene where
  client : Client.Stage
  clientView : Session.View
  server : Server.Stage
  serverView : Session.View
  toClient : Bytes
  toServer : Bytes

namespace Scene

variable {side : Side}

/-- Where a side stands. -/
def place (scene : Scene) : (side : Side) → Party.Place (StageOf side)
  | .client =>
    { stage := scene.client, view := scene.clientView, unread := scene.toClient
      sent := scene.toServer }
  | .server =>
    { stage := scene.server, view := scene.serverView, unread := scene.toServer
      sent := scene.toClient }

/-- The scene after one side has come to another place. -/
def moveTo (scene : Scene) : (side : Side) → Party.Place (StageOf side) → Scene
  | .client, place =>
    { scene with
      client := place.stage, clientView := place.view, toClient := place.unread
      toServer := place.sent }
  | .server, place =>
    { scene with
      server := place.stage, serverView := place.view, toServer := place.unread
      toClient := place.sent }

@[simp] theorem place_moveTo (scene : Scene) (place : Party.Place (StageOf side)) :
    (scene.moveTo side place).place side = place := by
  cases side <;> rfl

theorem place_peer_moveTo (scene : Scene) (place : Party.Place (StageOf side)) :
    (scene.moveTo side place).place side.peer =
      { scene.place side.peer with unread := place.sent, sent := place.unread } := by
  cases side <;> rfl

/-- Both sides of an exchange stand as in a scene. -/
def Shows (config : Config) (hello : Bytes) (scene : Scene) (exchange : Exchange) : Prop :=
  ∀ side, Party.Stands (scriptOf config hello side) false (scene.place side) (exchange.party side)
    (exchange.link.wire side)

/-- From a scene both sides come to their ends. -/
def Ends (config : Config) (hello : Bytes) (client : Client.Summary) (server : Server.Summary)
    (scene : Scene) : Prop :=
  ∀ exchange, scene.Shows config hello exchange → Completes config hello client server exchange

end Scene

section

variable {client : Client.Summary} {server : Server.Summary}

/-- Operations of one side alone are operations of an exchange. -/
theorem reaches_of_party {side : Side} {exchange : Exchange}
    {party : Party (StageOf side) (SummaryOf side)} {wire : Wire}
    (h : Party.Reaches (scriptOf config hello side)
      (exchange.party side, exchange.link.wire side) (party, wire)) :
    Reaches config hello exchange (exchange.withParty side party wire) := by
  generalize hafter : (party, wire) = after at h
  induction h generalizing party wire with
  | refl =>
    obtain ⟨rfl, rfl⟩ := Prod.mk.inj hafter
    rw [withParty_party]
    exact Relation.ReflTransGen.refl
  | @tail middle _ _ hstep ih =>
    subst hafter
    refine Relation.ReflTransGen.tail (ih rfl)
      ⟨side, step?_eq_some_iff.2 ⟨party, wire, ?_, withParty_withParty ..⟩⟩
    rw [party_withParty, link_withParty, Link.wire_setWire]
    exact hstep

/-- The other side sees the link that a side leaves behind. -/
theorem holds_wire_setWire {link : Link} {side : Side} {wire : Wire} {unread sent unread' sent' : Bytes}
    (h : wire.Holds false unread sent) (hpeer : (link.wire side.peer).Holds false unread' sent') :
    ((link.setWire side wire).wire side.peer).Holds false sent unread := by
  cases side with
  | client => exact ⟨h.outgoing, h.incoming, hpeer.steady, hpeer.writeFault⟩
  | server => exact ⟨h.outgoing, h.incoming, hpeer.steady, hpeer.writeFault⟩

/-- One side goes on, and the other one stands as it did. -/
theorem Scene.Shows.goes {side : Side} {scene : Scene} {place : Party.Place (StageOf side)}
    {exchange : Exchange} (shows : scene.Shows config hello exchange)
    (hgoes : Party.Goes (scriptOf config hello side) false (scene.place side) place) :
    ∃ party wire, Party.Reaches (scriptOf config hello side)
        (exchange.party side, exchange.link.wire side) (party, wire) ∧
      (scene.moveTo side place).Shows config hello (exchange.withParty side party wire) := by
  obtain ⟨party, wire, hreach, stands⟩ := hgoes _ _ (shows side)
  refine ⟨party, wire, hreach, fun side' => ?_⟩
  rcases side'.eq_or_eq_peer side with rfl | rfl
  · rw [Scene.place_moveTo, party_withParty, link_withParty, Link.wire_setWire]
    exact stands
  · have standsPeer := shows side.peer
    rw [Scene.place_peer_moveTo, party_peer_withParty, link_withParty]
    exact ⟨standsPeer.status, standsPeer.shown, holds_wire_setWire stands.wire standsPeer.wire⟩

/-- One side goes on. -/
theorem ends_of_goes (side : Side) {scene : Scene} {place : Party.Place (StageOf side)}
    (hgoes : Party.Goes (scriptOf config hello side) false (scene.place side) place)
    (h : (scene.moveTo side place).Ends config hello client server) :
    scene.Ends config hello client server := by
  intro exchange shows
  obtain ⟨party, wire, hreach, shows'⟩ := shows.goes hgoes
  exact completes_of_reaches (reaches_of_party hreach) (h _ shows')

end

/-! ## The whole exchange -/

/-- What the client is given. -/
def Config.client (config : Config) (hello : Bytes) : Client.Config where
  agreement := config.agreement
  privateKey := config.clientKey
  hello := hello
  earlyData := config.earlyData

/-- What the server is given. -/
def Config.server (config : Config) : Server.Config where
  agreement := config.agreement
  privateKey := config.serverKey
  random := config.serverRandom
  earlyData := config.earlyData
  rejectEarlyData := config.rejectEarlyData

/-- What an exchange with `count` records of early data reports. -/
def honestSummary (config : Config) (count : Nat) : Summary where
  suite := config.suite
  client := {
    earlyDataSent := count
    applicationData := asciiBytes ['p', 'i', 'n', 'g', ' ', 'p', 'o', 'n', 'g'] }
  server := {
    earlyDataReceived := if config.rejectEarlyData then 0 else count
    earlyDataSkipped := if config.rejectEarlyData then count else 0 }

variable {suite : CipherSuite} {count : Nat}

/-- Early data is accepted unless it is rejected or there is none. -/
theorem acceptsEarlyData_cases (hcount : config.earlyData = count) :
    config.server.acceptsEarlyData = true ∧ config.rejectEarlyData = false ∨
    config.server.acceptsEarlyData = false ∧ (config.rejectEarlyData = true ∨ count = 0) := by
  have heq : config.server.acceptsEarlyData =
      (decide (0 < config.earlyData) && !config.rejectEarlyData) := rfl
  rw [heq]
  cases config.rejectEarlyData with
  | true => exact Or.inr ⟨Bool.and_false _, Or.inl rfl⟩
  | false =>
    rw [Bool.not_false, Bool.and_true]
    by_cases hsome : 0 < config.earlyData
    · exact Or.inl ⟨decide_eq_true hsome, rfl⟩
    · exact Or.inr ⟨decide_eq_false hsome, Or.inr (by omega)⟩

/-- The early data that is dropped is all of it, or none. -/
theorem length_droppedRecords (talk : Conversation) (hcount : config.earlyData = count)
    (haccepts : talk.accepted = config.server.acceptsEarlyData) :
    (talk.droppedRecords count).length = if config.rejectEarlyData then count else 0 := by
  have hlength : (talk.earlyRecords count).length = count := by
    rw [Conversation.earlyRecords, List.length_map, List.length_range]
  rw [Conversation.droppedRecords, haccepts]
  rcases acceptsEarlyData_cases hcount with ⟨haccepted, hreject⟩ | ⟨haccepted, hreject | rfl⟩
  · rw [haccepted, hreject]
    rfl
  · rw [haccepted, hreject]
    exact hlength
  · rw [haccepted, ite_self]
    rfl

/-- Both sides have come to their ends. -/
theorem ended_of_done {talk : Conversation} {scene : Scene} {exchange : Exchange}
    (shows : scene.Shows config hello exchange) (hcount : config.earlyData = count)
    (haccepted : talk.accepted = config.server.acceptsEarlyData)
    (hclient : scene.client = .done (pingPayload ++ pongSuffix))
    (hserver : scene.server = .done (talk.droppedRecords count).length) :
    exchange.client.status = .ended (.ok (honestSummary config count).client) ∧
      exchange.server.status = .ended (.ok (honestSummary config count).server) := by
  have hstatus := (shows .client).status
  have hstatus' := (shows .server).status
  rw [Scene.place, hclient] at hstatus
  rw [Scene.place, hserver, length_droppedRecords talk hcount haccepted] at hstatus'
  have hreceived : (if config.server.acceptsEarlyData then config.earlyData.toNat else 0) =
      if config.rejectEarlyData then 0 else count := by
    rw [hcount, Int.toNat_natCast]
    rcases acceptsEarlyData_cases hcount with ⟨haccepted, hreject⟩ | ⟨haccepted, hreject | rfl⟩
    · rw [haccepted, hreject]
      rfl
    · rw [haccepted, hreject]
      rfl
    · rw [ite_self, ite_self]
  have hsent : config.earlyData.toNat = count := by rw [hcount, Int.toNat_natCast]
  refine ⟨hstatus.trans ?_, hstatus'.trans ?_⟩
  · rw [honestSummary, ← hsent]
    rfl
  · rw [honestSummary, ← hreceived]
    rfl

/-- What two sides need to come to their ends: a suite, a secret that they
share, randoms of the right size, and early data that fits its records. -/
structure Config.Agrees (config : Config) (suite : CipherSuite) (count : Nat) (shared : Bytes) :
    Prop where
  code : config.suite = suite.code
  earlyData : config.earlyData = count
  client : config.agreement.exchange config.clientKey
    (config.agreement.publicKey config.serverKey) = .ok shared
  server : config.agreement.exchange config.serverKey
    (config.agreement.publicKey config.clientKey) = .ok shared
  clientRandom : config.clientRandom.length = 32
  serverRandom : config.serverRandom.length = 32
  payloads : ∀ index < count, suite.hash.size + (earlyPayload index).length ≤ maxRecordLength

/-- Both sides before their first operation. -/
def opening (config : Config) (suite : CipherSuite) (log : KeyLog) : Exchange where
  client := {
    status := .running .hello {}
    session := {
      transport := { side := .client, logs := config.logs, random := config.clientRandom }
      log, schedule := { suite } } }
  server := {
    status := .running .clientHello {}
    session := { transport := { side := .server }, log := {}, schedule := { suite } } }

/-- A conversation as two sides have it, turn by turn: what each of them has sent
and where it stands then. -/
structure Turns (config : Config) (hello : Bytes) (suite : CipherSuite) (count : Nat)
    (talk : Conversation) : Prop where
  chosen : talk.keys.suite = suite
  clientHello : talk.clientHello = hello
  accepted : talk.accepted = config.server.acceptsEarlyData
  clientFits : ∀ record ∈ Epoch.stamp {} .handshake hello :: talk.earlyRecords count, record.Fits
  serverFits : (Epoch.stamp {} .handshake talk.serverHello).Fits
  opens : Party.Goes (clientScript config hello) false
    { stage := .hello, view := { suite }, unread := [], sent := [] }
    { stage := .serverHello, view := Client.helloView (config.client hello) suite, unread := []
      sent := (Epoch.stamp {} .handshake hello).bytes ++ Record.stream (talk.earlyRecords count) }
  answers : Party.Goes (serverScript config) false
    { stage := .clientHello, view := { suite }
      unread := (Epoch.stamp {} .handshake hello).bytes ++ Record.stream (talk.earlyRecords count)
      sent := [] }
    { stage := .clientFinished (Server.secretsOf talk) talk.transcript
      view := Server.awaitView config.server talk
      unread := Record.stream (talk.droppedRecords count)
      sent := Record.stream talk.serverFlight }
  verifies : Party.Goes (clientScript config hello) false
    { stage := .serverHello, view := Client.helloView (config.client hello) suite
      unread := Record.stream talk.serverFlight, sent := Record.stream (talk.droppedRecords count) }
    { stage := .finished talk.application talk.clientFinished
      view := Client.verifiedView (Client.helloView (config.client hello) suite) talk.flight
      unread := [], sent := Record.stream (talk.droppedRecords count) }
  finishes : Party.Goes (clientScript config hello) false
    { stage := .finished talk.application talk.clientFinished
      view := Client.verifiedView (Client.helloView (config.client hello) suite) talk.flight
      unread := [], sent := Record.stream (talk.droppedRecords count) }
    { stage := .pong, view := Client.pongView (config.client hello) talk, unread := []
      sent := Record.stream (talk.droppedRecords count) ++ Record.stream talk.clientFlight }
  replies : ∃ view, Party.Goes (serverScript config) false
    { stage := .clientFinished (Server.secretsOf talk) talk.transcript
      view := Server.awaitView config.server talk
      unread := Record.stream (talk.droppedRecords count) ++ Record.stream talk.clientFlight
      sent := [] }
    { stage := .done (talk.droppedRecords count).length, view, unread := []
      sent := talk.pong.bytes }
  ends : Party.Goes (clientScript config hello) false
    { stage := .pong, view := Client.pongView (config.client hello) talk
      unread := talk.pong.bytes, sent := [] }
    { stage := .done (pingPayload ++ pongSuffix), view := Client.pongView (config.client hello) talk
      unread := [], sent := [] }

/-- Two sides that agree have a conversation. -/
theorem Config.Agrees.exists_turns {shared : Bytes} (agrees : config.Agrees suite count shared)
    (log : KeyLog) :
    ∃ hello talk, start config log = .ok (opening config suite log, hello) ∧
      Turns config hello suite count talk := by
  have hcount := agrees.earlyData
  obtain ⟨hello, message, hhello, hshort, hopens, hcarries⟩ := Message.exists_clientHello
    (config.agreement.length_publicKey config.clientKey) agrees.clientRandom suite
    (decide (0 < config.earlyData))
  obtain ⟨answer, message', hanswer, hshort', hopens', hcarries'⟩ := Message.exists_serverHello
    (config.agreement.length_publicKey config.serverKey) agrees.serverRandom suite
  have hfits : (Epoch.stamp {} .handshake hello).Fits := Epoch.fits_stamp_default .handshake hshort
  have hfits' : (Epoch.stamp {} .handshake answer).Fits :=
    Epoch.fits_stamp_default .handshake hshort'
  let talk : Conversation :=
    { keys := config.server.keys suite shared, clientHello := hello, serverHello := answer
      accepted := config.server.acceptsEarlyData }
  have hearly : ∀ record ∈ talk.earlyRecords count, record.Fits ∧ record.level = 1 :=
    fun record h => talk.fits_of_mem_earlyRecords agrees.payloads h
  refine ⟨hello, talk, ?_, ?_⟩
  · have hschedule : KeySchedule.start config.suite = .ok { suite } := by
      rw [agrees.code, KeySchedule.start, CipherSuite.ofInt, CipherSuite.ofInt?_code]
      rfl
    have hwritten : clientHello config = .ok hello := by
      rw [clientHello, agrees.code]
      exact hhello
    rw [start, if_neg (by omega), Server.start, Client.start, hschedule, hwritten]
    rfl
  have hrecords : talk.earlyRecords count = (List.range count).map
      (Client.earlyRecord (Client.helloView (config.client hello) suite).write) := by
    rw [Client.helloView]
    split
    next hzero =>
      obtain rfl : count = 0 := by
        have : config.earlyData = 0 := hzero
        omega
      rfl
    next => rfl
  have answers := Server.answers_of_conversation (rfl : talk.keys = _) rfl hopens hcarries
    agrees.server hanswer
  have hpong : talk.pong.Leads talk.pong.bytes [] :=
    Record.leads_iff.2 ⟨talk.fits_pong, (List.append_nil _).symm⟩
  exact {
    chosen := rfl
    clientHello := rfl
    accepted := rfl
    clientFits := List.forall_mem_cons.2 ⟨hfits, fun record h => (hearly record h).1⟩
    serverFits := hfits'
    opens := by
      rw [hrecords]
      exact Client.goes_hello hcount hshort fun index h => Nat.lt_succ_of_le (agrees.payloads index h)
    answers := answers.goes_clientFinished hcount hfits hfits' fun record h => (hearly record h).1
    verifies :=
      Client.goes_clientFinished rfl rfl ⟨message', _, hopens', hcarries', agrees.client⟩ hfits'
    finishes := Client.goes_pong
    replies := Server.goes_done_of_clientFlight rfl hcount fun record h => (hearly record h).1
    ends := Party.goes_receive_next rfl rfl hpong (Session.gives_pure _) }

/-- Both sides before their first operation, as a scene. -/
def openingScene (suite : CipherSuite) : Scene where
  client := .hello
  clientView := { suite }
  server := .clientHello
  serverView := { suite }
  toClient := []
  toServer := []

theorem shows_opening (hello : Bytes) (suite : CipherSuite) {log : KeyLog}
    (husable : config.logs = true → log.fault = none) :
    (openingScene suite).Shows config hello (opening config suite log) := by
  intro side
  cases side with
  | client =>
    exact ⟨rfl, ⟨rfl, rfl, rfl, rfl, rfl, rfl, rfl, rfl, husable⟩, rfl, rfl, Port.steady_default, rfl⟩
  | server =>
    exact ⟨rfl, ⟨rfl, rfl, rfl, rfl, rfl, rfl, rfl, rfl, by rintro ⟨⟩⟩, rfl, rfl,
      Port.steady_default, rfl⟩

/-- From the start both sides come to their ends. -/
theorem completes_opening {shared : Bytes} (agrees : config.Agrees suite count shared)
    {log : KeyLog} (husable : config.logs = true → log.fault = none) :
    ∃ hello, start config log = .ok (opening config suite log, hello) ∧
      Completes config hello (honestSummary config count).client (honestSummary config count).server
        (opening config suite log) := by
  obtain ⟨hello, talk, hstart, turns⟩ := agrees.exists_turns log
  obtain ⟨view, hreplies⟩ := turns.replies
  have hends : (openingScene suite).Ends config hello
      (honestSummary config count).client (honestSummary config count).server := by
    refine ends_of_goes .client turns.opens ?_
    refine ends_of_goes .server turns.answers ?_
    refine ends_of_goes .client turns.verifies ?_
    refine ends_of_goes .client turns.finishes ?_
    refine ends_of_goes .server hreplies ?_
    refine ends_of_goes .client turns.ends fun exchange shows => ?_
    obtain ⟨hclient, hserver⟩ := ended_of_done shows agrees.earlyData turns.accepted rfl rfl
    exact .ended hclient hserver
  exact ⟨hello, hstart, hends _ (shows_opening hello suite husable)⟩

/-- Nothing is under way at the start. -/
theorem sound_opening (config : Config) (hello : Bytes) (suite : CipherSuite) (log : KeyLog) :
    Sound config hello (opening config suite log) :=
  ⟨[], [], rfl, ⟨.header [] (by simp), Or.inl rfl⟩, ⟨.header [] (by simp), Or.inl rfl⟩⟩

/-- Two sides that agree on a secret never get stuck and never fail, whatever
the order of their operations, and every order comes to an end with the same
summary: the client has sent all early data, the server has received all of it
or skipped all of it, and the client has got the answer to its ping. -/
theorem summary_in_every_order {config : Config} {suite : CipherSuite} {count : Nat}
    {shared : Bytes} (agrees : config.Agrees suite count shared) {log : KeyLog}
    (husable : config.logs = true → log.fault = none) :
    ∃ exchange hello, start config log = .ok (exchange, hello) ∧
      (WellFounded fun after before => Steps config hello before after) ∧
      (∀ after, Reaches config hello exchange after →
        (∀ side, after.failed side = false) ∧
        ((∃ side next, step? config hello side after = some next) ∨
          after.client.status = .ended (.ok (honestSummary config count).client) ∧
          after.server.status = .ended (.ok (honestSummary config count).server) ∧
          verdict config after = .ok (honestSummary config count))) ∧
      (perform config log).result = .ok (honestSummary config count) := by
  obtain ⟨hello, hstart, hcompletes⟩ := completes_opening agrees husable
  have sound := sound_opening config hello suite log
  have hverdict : ∀ after : Exchange,
      after.client.status = .ended (.ok (honestSummary config count).client) →
      after.server.status = .ended (.ok (honestSummary config count).server) →
      verdict config after = .ok (honestSummary config count) := by
    intro after hclient hserver
    simp only [verdict, Party.result, hclient, hserver]
    rfl
  refine ⟨_, hello, hstart, wellFounded_steps config hello, ?_, ?_⟩
  · intro after hreach
    have hafter := hcompletes.of_reaches sound hreach
    refine ⟨hafter.not_failed, ?_⟩
    rcases hafter.exists_step with ⟨hclient, hserver⟩ | hstep
    · exact Or.inr ⟨hclient, hserver, hverdict after hclient hserver⟩
    · exact Or.inl hstep
  · obtain ⟨hreach, hturn⟩ := @reaches_run config hello (opening config suite log)
    have hfinal := hcompletes.of_reaches sound hreach
    have hperform : (perform config log).result =
        verdict config (run config hello (opening config suite log)).close := by
      rw [perform, hstart]
    rw [hperform]
    rcases hfinal.exists_step with ⟨hclient, hserver⟩ | ⟨side, next, hstep⟩
    · exact hverdict _ hclient hserver
    · rw [turn?] at hturn
      split at hturn
      next => cases hturn
      next hnone =>
        cases side with
        | client => rw [hturn] at hstep; cases hstep
        | server => rw [hnone] at hstep; cases hstep

/-- Two records of early data that the server rejects, under the keys of X25519. -/
def rejecting : Config where
  agreement := x25519
  suite := 0x1302
  earlyData := 2
  rejectEarlyData := true
  clientKey := List.replicate 32 1
  serverKey := List.replicate 32 2
  clientRandom := List.replicate 32 3
  serverRandom := List.replicate 32 4

theorem agrees_rejecting : rejecting.Agrees .aes256GcmSha384 2 (X25519.littleEndian
    37870191047867657583432095346284531764084119257177089722230817295622394795822) where
  code := rfl
  earlyData := rfl
  client := by decide +kernel
  server := by decide +kernel
  clientRandom := rfl
  serverRandom := rfl
  payloads := fun index h => Client.room_earlyPayload _ (by omega)

theorem summary_in_every_order_of_rejecting :
    ∃ exchange hello, start rejecting {} = .ok (exchange, hello) ∧
      (WellFounded fun after before => Steps rejecting hello before after) ∧
      (∀ after, Reaches rejecting hello exchange after →
        (∀ side, after.failed side = false) ∧
        ((∃ side next, step? rejecting hello side after = some next) ∨
          after.client.status = .ended (.ok (honestSummary rejecting 2).client) ∧
          after.server.status = .ended (.ok (honestSummary rejecting 2).server) ∧
          verdict rejecting after = .ok (honestSummary rejecting 2))) ∧
      (perform rejecting {}).result = .ok (honestSummary rejecting 2) :=
  summary_in_every_order agrees_rejecting (by rintro ⟨⟩)

end RecordLayer.Exchange
