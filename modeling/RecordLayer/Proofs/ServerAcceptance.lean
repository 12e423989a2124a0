import Mathlib.Tactic.Common
import RecordLayer.Proofs.Answering
import RecordLayer.Proofs.Conversations

/-!
# What a server accepts

A server finishes its script exactly when its peer has sent what
`Server.Accepts` describes: a ClientHello to share a secret with, early data,
the right Finished message, and one more record that can be answered.  Early
data is as many records as the server waits for if it accepts them, and any
records of that level if it does not.

The script is cut where the Finished message of the client has been verified
(`Server.Verifies`).  `goes_of_verifies` and `stops_of_not_verifies` decide
whether a server gets there, and `goes_done` and `stops_request` whether it
comes from there to its end; by then it has sent its flight and nothing else.
-/

namespace RecordLayer

/-- A hello message carries a key that gives a shared secret. -/
def KeyAgreement.Shares (agreement : KeyAgreement) (privateKey hello shared : Bytes) : Prop :=
  ∃ message key, Message.Opens hello message ∧ message.Carries key ∧
    agreement.exchange privateKey key = .ok shared

namespace Server

/-! ## What the peer has to send -/

/-- A conversation is what a server answers a ClientHello with. -/
structure Config.Answers (config : Config) (suite : CipherSuite) (talk : Conversation) : Prop where
  keys : ∃ shared, config.agreement.Shares config.privateKey talk.clientHello shared ∧
    talk.keys = config.keys suite shared
  hello : Message.serverHello (config.agreement.publicKey config.privateKey) suite.code
    config.random = .ok talk.serverHello
  accepted : talk.accepted = config.acceptsEarlyData

/-- The records of early data that a server takes off the wire. -/
def Config.Takes (config : Config) (talk : Conversation) (early : List Record) : Prop :=
  if config.acceptsEarlyData then
    ∃ deliveries : List Delivery, deliveries.length = config.earlyData.toNat ∧
      early = recordsOf (Client.earlyEpoch talk.keys.suite talk.clientHello) deliveries
  else if config.earlyData = 0 then early = []
  else ∀ record ∈ early, record.level = 1

/-- How many of them it drops. -/
def Config.skipped (config : Config) (early : List Record) : Nat :=
  if config.acceptsEarlyData then 0 else early.length

/-- The bytes that a server has received once it has verified the client's
Finished message: the ClientHello of a conversation, early data and that
message, with `later` behind them. -/
structure Verifies (config : Config) (suite : CipherSuite) (bytes : Bytes) (talk : Conversation)
    (early : List Record) (later : Bytes) : Prop where
  answers : config.Answers suite talk
  takes : config.Takes talk early
  finished : ∃ data,
    Client.Finishes data (talk.keys.verifyData talk.secrets.client talk.transcript) ∧
    Record.LeadAll (Epoch.stamp {} .handshake talk.clientHello :: (early ++
      [(talk.keys.suite.epoch .handshake talk.secrets.client).stamp .handshake data])) bytes later

/-- What a server needs in front of the bytes that it receives: after the
client's Finished message one more record, the answer to which fits. -/
def Accepts (config : Config) (suite : CipherSuite) (bytes : Bytes) (talk : Conversation)
    (early : List Record) (request : Delivery) (rest : Bytes) : Prop :=
  ∃ later, Verifies config suite bytes talk early later ∧
    ((talk.keys.suite.epoch .application talk.application.client).stamp
      request.type request.data).Leads later rest ∧
    (talk.reply request.data).Fits

variable {config : Config} {closes final : Bool} {suite : CipherSuite} {talk : Conversation}

/-! ## The flight -/

/-- The ServerHello of an answer fits its record. -/
theorem Config.Answers.fits (answers : config.Answers suite talk)
    (hrandom : config.random.length = 32) :
    (Epoch.stamp {} .handshake talk.serverHello).Fits := by
  obtain ⟨hello, -, hhello, hshort, -, -⟩ := Message.exists_serverHello
    (config.agreement.length_publicKey config.privateKey) hrandom suite
  obtain rfl := Except.ok.inj (hhello.symm.trans answers.hello)
  exact Epoch.fits_stamp_default .handshake hshort

/-- Every record of a server's flight fits, and none is of application data. -/
theorem fits_of_mem_serverFlight (hfits : (Epoch.stamp {} .handshake talk.serverHello).Fits)
    {record : Record} (h : record ∈ talk.serverFlight) : record.Fits ∧ record.level ≠ 3 := by
  rcases List.mem_cons.1 h with rfl | h
  · exact ⟨hfits, by exact (by decide : (0 : Int) ≠ 3)⟩
  · obtain ⟨data, hdata, rfl⟩ := List.mem_map.1 h
    exact ⟨talk.fits_serverRecord hdata, by exact (by decide : (Level.handshake.code : Int) ≠ 3)⟩

/-- On a ClientHello that it answers the server sends its flight, up to the
Finished message. -/
theorem goes_of_answers (answers : config.Answers suite talk)
    (hfits : (Epoch.stamp {} .handshake talk.serverHello).Fits) {bytes rest sent : Bytes}
    (hlead : (Epoch.stamp {} .handshake talk.clientHello).Leads bytes rest) :
    Party.Goes (scriptThat config closes) final
      { stage := .clientHello, view := { suite }, unread := bytes, sent }
      { stage := .finished talk.secrets talk.messages talk.serverFinished
        view := flightView config talk.keys talk.clientHello talk.serverHello
        unread := rest
        sent := sent ++ (Epoch.stamp {} .handshake talk.serverHello).bytes ++
          Record.stream ((Message.scriptedFlight talk.accepted).map talk.serverRecord) } := by
  obtain ⟨⟨shared, ⟨message, key, hopens, hcarries, hshared⟩, hkeys⟩, hhello, haccepted⟩ := answers
  obtain ⟨keys, clientHello, serverHello, accepted⟩ := talk
  dsimp only at hkeys haccepted hopens hhello hfits hlead
  subst hkeys haccepted
  let talk : Conversation :=
    { keys := config.keys suite shared, clientHello, serverHello
      accepted := config.acceptsEarlyData }
  obtain ⟨share, hshare, hkey⟩ := Message.carries_iff.1 hcarries
  refine Party.Goes.trans
    (Party.goes_receive_next rfl rfl hlead (gives_onClientHello hopens hshare hhello)) ?_
  refine Party.Goes.trans
    (Party.goes_send rfl (by simp) hfits (gives_afterServerHello hkey hshared)) ?_
  exact goes_flight fun data h => talk.fits_serverRecord (List.mem_append_left _ h)

/-! ## Early data -/

/-- Both traffic secrets of a conversation. -/
def secretsOf (talk : Conversation) : Secrets where
  handshake := talk.secrets
  application := talk.application

/-- The view of a server that waits for early data. -/
def earlyView (config : Config) (talk : Conversation) : Session.View :=
  { sentView (flightView config talk.keys talk.clientHello talk.serverHello) talk.application with
    read := Client.earlyEpoch talk.keys.suite talk.clientHello }

/-- The view of a server that waits for the client's Finished message. -/
def awaitView (config : Config) (talk : Conversation) : Session.View :=
  { sentView (flightView config talk.keys talk.clientHello talk.serverHello) talk.application with
    read := talk.keys.suite.epoch .handshake talk.secrets.client
    skipping := !talk.accepted && decide (config.earlyData ≠ 0) }

/-- A server that accepts early data waits for a first record. -/
theorem exists_left (haccepts : config.acceptsEarlyData = true) :
    ∃ left, config.earlyData.toNat = left + 1 := by
  have hpositive : 0 < config.earlyData := of_decide_eq_true (Bool.and_eq_true_iff.1 haccepts).1
  exact ⟨config.earlyData.toNat - 1, by omega⟩

/-- After its flight a server that accepts early data waits for it. -/
theorem goes_early_stage {left : Nat} {unread sent : Bytes}
    (haccepts : config.acceptsEarlyData = true) (hcount : config.earlyData.toNat = left + 1) :
    Party.Goes (scriptThat config closes) final
      { stage := .finished talk.secrets talk.messages talk.serverFinished
        view := flightView config talk.keys talk.clientHello talk.serverHello, unread, sent }
      { stage := .early (secretsOf talk) talk.transcript left, view := earlyView config talk, unread
        sent := sent ++ (talk.serverRecord talk.serverFinished).bytes } := by
  have hstored : (flightView config talk.keys talk.clientHello talk.serverHello).earlyTraffic =
      some (earlySecrets talk.keys.suite talk.clientHello) := if_neg (by omega)
  exact Party.goes_send rfl (by simp) talk.fits_serverFinished
    (gives_afterFinished_of_accepts rfl hstored haccepts (by omega))

/-- After its flight a server that accepts no early data waits for the
client's Finished message. -/
theorem goes_await {unread sent : Bytes} (haccepts : talk.accepted = config.acceptsEarlyData)
    (hnot : config.acceptsEarlyData = false) :
    Party.Goes (scriptThat config closes) final
      { stage := .finished talk.secrets talk.messages talk.serverFinished
        view := flightView config talk.keys talk.clientHello talk.serverHello, unread, sent }
      { stage := .clientFinished (secretsOf talk) talk.transcript, view := awaitView config talk
        unread, sent := sent ++ (talk.serverRecord talk.serverFinished).bytes } := by
  have hview : awaitView config talk = { sentView (flightView config talk.keys talk.clientHello
      talk.serverHello) talk.application with
        read := talk.keys.suite.epoch .handshake talk.secrets.client
        skipping := decide (config.earlyData ≠ 0) } := by
    rw [awaitView, haccepts, hnot]
    rfl
  rw [hview]
  exact Party.goes_send rfl (by simp) talk.fits_serverFinished
    (gives_afterFinished_of_not_accepts rfl rfl hnot)

/-- A server that has read all early data skips none. -/
theorem awaitView_of_accepted (haccepted : talk.accepted = true) :
    awaitView config talk =
      { earlyView config talk with
        read := talk.keys.suite.epoch .handshake talk.secrets.client } := by
  rw [awaitView, haccepted]
  rfl

/-- After its flight a server takes the early data that it accepts. -/
theorem goes_await_of_accepts (haccepts : talk.accepted = config.acceptsEarlyData)
    (htrue : config.acceptsEarlyData = true) {deliveries : List Delivery}
    (hlength : deliveries.length = config.earlyData.toNat) {bytes rest sent : Bytes}
    (hlead : Record.LeadAll
      (recordsOf (Client.earlyEpoch talk.keys.suite talk.clientHello) deliveries) bytes rest) :
    Party.Goes (scriptThat config closes) final
      { stage := .finished talk.secrets talk.messages talk.serverFinished
        view := flightView config talk.keys talk.clientHello talk.serverHello, unread := bytes, sent }
      { stage := .clientFinished (secretsOf talk) talk.transcript, view := awaitView config talk
        unread := rest, sent := sent ++ (talk.serverRecord talk.serverFinished).bytes } := by
  obtain ⟨left, hcount⟩ := exists_left htrue
  refine (goes_early_stage htrue hcount).trans ?_
  rw [awaitView_of_accepted (haccepts.trans htrue)]
  exact goes_early rfl (hlength.trans hcount) hlead

/-! ## The client's Finished message -/

/-- The view of a server that has verified the client's Finished message after
dropping some records. -/
def requestView (config : Config) (talk : Conversation) (dropped : Nat) : Session.View :=
  { (awaitView config talk).delivered dropped with
    read := talk.keys.suite.epoch .application talk.application.client }

/-- The right Finished message leads on to the request. -/
theorem goes_request {dropped : List Record} {data bytes later sent : Bytes}
    (h : (awaitView config talk).Receives dropped { type := .handshake, data } bytes later)
    (hfinishes : Client.Finishes data (talk.keys.verifyData talk.secrets.client talk.transcript)) :
    Party.Goes (scriptThat config closes) final
      { stage := .clientFinished (secretsOf talk) talk.transcript, view := awaitView config talk
        unread := bytes, sent }
      { stage := .request dropped.length, view := requestView config talk dropped.length
        unread := later, sent } := by
  obtain ⟨message, hopens, -, hcontent⟩ := hfinishes
  have hchecked : Session.Gives
      (onClientFinished (secretsOf talk) talk.transcript { type := .handshake, data })
      ((awaitView config talk).delivered dropped.length)
      ⟨.request ((awaitView config talk).delivered dropped.length).skipped, Nat.le_refl 1⟩
      (requestView config talk dropped.length) :=
    gives_onClientFinished ⟨message, hopens, hcontent⟩
  have hcount : ((awaitView config talk).delivered dropped.length).skipped = dropped.length :=
    Nat.zero_add _
  rw [hcount] at hchecked
  exact Party.goes_receive rfl h hchecked

/-- Without the right Finished message the server fails. -/
theorem stops_clientFinished {bytes sent : Bytes}
    (hnone : ∀ dropped data later,
      (awaitView config talk).Receives dropped { type := .handshake, data } bytes later →
      ¬Client.Finishes data (talk.keys.verifyData talk.secrets.client talk.transcript)) :
    Party.Stops (scriptThat config closes) true
      { stage := .clientFinished (secretsOf talk) talk.transcript, view := awaitView config talk
        unread := bytes, sent } sent := by
  refine Party.stops_receive rfl fun dropped delivery later hreceives => ?_
  obtain ⟨type, data⟩ := delivery
  refine Party.stops_next rfl hreceives fun session shown => ?_
  refine error_onClientFinished shown fun htype message hopens hcontent => ?_
  obtain rfl : type = .handshake := htype
  exact hnone dropped data later hreceives
    ⟨message, hopens, hopens.content_eq_finished_iff.1 ⟨_, hcontent⟩, hcontent⟩

/-- Records are dropped only where early data is skipped. -/
theorem skips_of_takes (haccepts : talk.accepted = config.acceptsEarlyData)
    (hnot : config.acceptsEarlyData = false) {early : List Record} (htakes : config.Takes talk early) :
    (∀ record ∈ early, record.level = 1) ∧
      (early ≠ [] → (awaitView config talk).skipping = true ∧ (awaitView config talk).read.level ≠ 1) := by
  rw [Config.Takes, hnot, if_neg Bool.false_ne_true] at htakes
  split at htakes
  next =>
    subst htakes
    exact ⟨by simp, fun hne => absurd rfl hne⟩
  next hsome =>
    refine ⟨htakes, fun _ => ⟨?_, by exact (by decide : (Level.handshake.code : Int) ≠ 1)⟩⟩
    rw [awaitView, haccepts, hnot]
    exact decide_eq_true hsome

/-- What is dropped before the Finished message is early data that a server takes. -/
theorem takes_of_receives (haccepts : talk.accepted = config.acceptsEarlyData)
    (hnot : config.acceptsEarlyData = false) {dropped : List Record} {delivery : Delivery}
    {bytes later : Bytes} (h : (awaitView config talk).Receives dropped delivery bytes later) :
    config.Takes talk dropped := by
  rw [Config.Takes, hnot, if_neg Bool.false_ne_true]
  split
  next hzero =>
    by_contra hne
    have hskips := (h.skips hne).1
    rw [awaitView, haccepts, hnot] at hskips
    exact of_decide_eq_true hskips hzero
  next => exact fun record hrecord => (h.early record hrecord).2

/-! ## Up to the client's Finished message -/

theorem stream_serverFlight (talk : Conversation) :
    Record.stream talk.serverFlight =
      (Epoch.stamp {} .handshake talk.serverHello).bytes ++
        Record.stream ((Message.scriptedFlight talk.accepted).map talk.serverRecord) ++
          (talk.serverRecord talk.serverFinished).bytes := by
  rw [Conversation.serverFlight, Record.stream_cons, List.map_append, Record.stream_append,
    List.append_assoc]
  simp [Record.stream]

/-- On a ClientHello, early data and a Finished message that it verifies the
server sends its flight and waits for the request. -/
theorem goes_of_verifies (hrandom : config.random.length = 32) {bytes later : Bytes}
    {early : List Record} (h : Verifies config suite bytes talk early later) :
    Party.Goes (scriptThat config closes) final
      { stage := .clientHello, view := { suite }, unread := bytes, sent := [] }
      { stage := .request (config.skipped early)
        view := requestView config talk (config.skipped early)
        unread := later, sent := Record.stream talk.serverFlight } := by
  obtain ⟨answers, htakes, data, hfinishes, hlead⟩ := h
  obtain ⟨afterHello, hhello, hrest⟩ := hlead
  obtain ⟨afterEarly, hearly, _, hfinished, rfl⟩ := Record.leadAll_append.1 hrest
  refine (goes_of_answers answers (answers.fits hrandom) hhello).trans ?_
  rw [stream_serverFlight]
  cases haccepts : config.acceptsEarlyData with
  | true =>
    have htaken := htakes
    rw [Config.Takes, haccepts, if_pos rfl] at htaken
    obtain ⟨deliveries, hlength, rfl⟩ := htaken
    refine (goes_await_of_accepts answers.accepted haccepts hlength hearly).trans ?_
    rw [Config.skipped, haccepts, if_pos rfl]
    exact goes_request (Session.View.receives_of_leads hfinished) hfinishes
  | false =>
    obtain ⟨hlevels, hskips⟩ := skips_of_takes answers.accepted haccepts htakes
    obtain ⟨hfits, hbytes⟩ := Record.leadAll_iff.1 hearly
    refine (goes_await answers.accepted haccepts).trans ?_
    rw [Config.skipped, haccepts, if_neg Bool.false_ne_true]
    exact goes_request ⟨fun record hrecord => ⟨hfits record hrecord, hlevels record hrecord⟩, hskips,
      afterEarly, hbytes, hfinished⟩ hfinishes

/-- After its flight a server fails unless the client's Finished message comes
behind the early data that it takes. -/
theorem stops_finished {bytes sent : Bytes} (haccepts : talk.accepted = config.acceptsEarlyData)
    (hnone : ∀ early middle later data, config.Takes talk early → Record.LeadAll early bytes middle →
      ((talk.keys.suite.epoch .handshake talk.secrets.client).stamp .handshake data).Leads
        middle later →
      ¬Client.Finishes data (talk.keys.verifyData talk.secrets.client talk.transcript)) :
    Party.Stops (scriptThat config closes) true
      { stage := .finished talk.secrets talk.messages talk.serverFinished
        view := flightView config talk.keys talk.clientHello talk.serverHello, unread := bytes, sent }
      (sent ++ (talk.serverRecord talk.serverFinished).bytes) := by
  cases htrue : config.acceptsEarlyData with
  | true =>
    obtain ⟨left, hcount⟩ := exists_left htrue
    refine (goes_early_stage htrue hcount).stops ?_
    refine stops_early rfl fun deliveries middle hlength hlead => ?_
    have hview : awaitView config talk =
        { earlyView config talk with
          read := talk.keys.suite.epoch .handshake talk.secrets.client } :=
      awaitView_of_accepted (haccepts.trans htrue)
    suffices hlast : Party.Stops (scriptThat config closes) true
        { stage := .clientFinished (secretsOf talk) talk.transcript, view := awaitView config talk
          unread := middle, sent := sent ++ (talk.serverRecord talk.serverFinished).bytes }
        (sent ++ (talk.serverRecord talk.serverFinished).bytes) by
      rw [hview] at hlast
      exact hlast
    refine stops_clientFinished fun dropped data later hreceives => ?_
    have hskipping : (awaitView config talk).skipping = false := by
      rw [hview]
      rfl
    have htakes : config.Takes talk
        (recordsOf (Client.earlyEpoch talk.keys.suite talk.clientHello) deliveries) := by
      rw [Config.Takes, htrue, if_pos rfl]
      exact ⟨deliveries, hlength.trans hcount.symm, rfl⟩
    exact hnone _ middle later data htakes hlead (hreceives.leads_of_not_skipping hskipping)
  | false =>
    refine (goes_await haccepts htrue).stops ?_
    refine stops_clientFinished fun dropped data later hreceives => ?_
    obtain ⟨middle, hbytes, hlead⟩ := hreceives.leads
    have hdropped : Record.LeadAll dropped bytes middle :=
      Record.leadAll_iff.2 ⟨fun record hrecord => (hreceives.early record hrecord).1, hbytes⟩
    exact hnone dropped middle later data (takes_of_receives haccepts htrue hreceives) hdropped hlead

/-- Without a Finished message to verify the server fails, and has sent no
application data. -/
theorem stops_of_not_verifies (closes : Bool) {bytes : Bytes} (hrandom : config.random.length = 32)
    (hnone : ∀ talk early later, ¬Verifies config suite bytes talk early later) :
    ∃ records : List Record, (∀ record ∈ records, record.Fits ∧ record.level ≠ 3) ∧
      Party.Stops (scriptThat config closes) true
        { stage := .clientHello, view := { suite }, unread := bytes, sent := [] }
        (Record.stream records) := by
  obtain ⟨hello, -, hhello, hshort, -, -⟩ := Message.exists_serverHello
    (config.agreement.length_publicKey config.privateKey) hrandom suite
  have hfits : (Epoch.stamp {} .handshake hello).Fits := Epoch.fits_stamp_default .handshake hshort
  by_cases hshares : ∃ clientHello shared rest,
      (Epoch.stamp {} .handshake clientHello).Leads bytes rest ∧
      config.agreement.Shares config.privateKey clientHello shared
  · -- the whole flight is sent
    obtain ⟨clientHello, shared, rest, hlead, hshares⟩ := hshares
    let talk : Conversation :=
      { keys := config.keys suite shared, clientHello, serverHello := hello
        accepted := config.acceptsEarlyData }
    have answers : config.Answers suite talk := ⟨⟨shared, hshares, rfl⟩, hhello, rfl⟩
    refine ⟨talk.serverFlight, fun record h => fits_of_mem_serverFlight hfits h, ?_⟩
    rw [stream_serverFlight]
    refine (goes_of_answers answers hfits hlead).stops ?_
    refine stops_finished rfl fun early middle later data htakes hearly hfinished hfinishes => ?_
    exact hnone talk early later ⟨answers, htakes, data, hfinishes, rest, hlead,
      Record.leadAll_append.2 ⟨middle, hearly, later, hfinished, rfl⟩⟩
  by_cases hanswered : ∃ data message share rest, (Epoch.stamp {} .handshake data).Leads bytes rest ∧
      Message.Opens data message ∧ message.keyShare? = .ok share
  · -- only the ServerHello is sent
    obtain ⟨data, message, share, rest, hlead, hopens, hshare⟩ := hanswered
    refine ⟨[Epoch.stamp {} .handshake hello], ?_, ?_⟩
    · intro record h
      obtain rfl := List.mem_singleton.1 h
      exact ⟨hfits, by exact (by decide : (0 : Int) ≠ 3)⟩
    · refine Party.Goes.stops
        (Party.goes_receive_next rfl rfl hlead (gives_onClientHello hopens hshare hhello)) ?_
      rw [Record.stream_cons, Record.stream_nil, List.append_nil]
      refine Party.stops_send_next rfl (by simp) hfits fun session _ => ?_
      refine error_afterServerHello fun key shared hkey hshared => ?_
      exact hshares ⟨data, shared, rest, hlead, message, key, hopens,
        Message.carries_iff.2 ⟨share, hshare, hkey⟩, hshared⟩
  · -- nothing is sent
    refine ⟨[], by simp, ?_⟩
    refine Party.stops_receive rfl fun dropped delivery rest hreceives => ?_
    obtain ⟨type, data⟩ := delivery
    refine Party.stops_next rfl hreceives fun session _ => ?_
    refine error_onClientHello fun htype message share hopens hshare => ?_
    obtain rfl : type = .handshake := htype
    exact hanswered ⟨data, message, share, rest, hreceives.leads_of_not_skipping rfl, hopens, hshare⟩

/-! ## From the client's Finished message to the end -/

variable {skipped : Nat} {later rest sent : Bytes}

/-- A request is received, and the reply is due. -/
theorem goes_reply {request : Delivery}
    (hlead : ((talk.keys.suite.epoch .application talk.application.client).stamp
      request.type request.data).Leads later rest) :
    Party.Goes (scriptThat config closes) final
      { stage := .request skipped, view := requestView config talk skipped, unread := later, sent }
      { stage := .reply skipped (request.data ++ pongSuffix), view := requestView config talk skipped
        unread := rest, sent } :=
  Party.goes_receive_next rfl rfl hlead (Session.gives_pure _)

/-- The request is answered, and the server has come to its end. -/
theorem goes_done {request : Delivery}
    (hlead : ((talk.keys.suite.epoch .application talk.application.client).stamp
      request.type request.data).Leads later rest)
    (hfits : (talk.reply request.data).Fits) :
    Party.Goes (scriptThat config closes) final
      { stage := .request skipped, view := requestView config talk skipped, unread := later, sent }
      { stage := .done skipped, view := requestView config talk skipped, unread := rest
        sent := sent ++ (talk.reply request.data).bytes } := by
  refine (goes_reply hlead).trans ?_
  exact Party.goes_send rfl (by simp) hfits (Session.gives_pure _)

/-- Without a request that can be answered the server fails, and sends nothing. -/
theorem stops_request
    (hnone : ∀ request rest,
      ((talk.keys.suite.epoch .application talk.application.client).stamp
        (Delivery.type request) request.data).Leads later rest → ¬(talk.reply request.data).Fits) :
    Party.Stops (scriptThat config closes) true
      { stage := .request skipped, view := requestView config talk skipped, unread := later, sent }
      sent := by
  refine Party.stops_receive rfl fun dropped request rest hreceives => ?_
  have hlead : ((requestView config talk skipped).read.stamp request.type request.data).Leads
      later rest := hreceives.leads_of_not_skipping rfl
  refine (goes_reply hlead).stops ?_
  exact Party.stops_send rfl (hnone request rest hlead)

end Server

end RecordLayer
