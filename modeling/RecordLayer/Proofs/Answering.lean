import Mathlib.Tactic.Common
import RecordLayer.Exchange.Server
import RecordLayer.Proofs.Flights
import RecordLayer.Proofs.Places

/-!
# What a server does

Each action of the server's script in terms of views: what it needs to
succeed, the stage that it leads to, and the epochs and secrets that it
leaves.  Early data that is rejected changes two things, the epoch in which
the server reads on and whether it skips.
-/

namespace RecordLayer

namespace Server

variable {config : Config} {suite : CipherSuite} {view : Session.View}

/-- The keys that a server with a shared secret derives. -/
def Config.keys (config : Config) (suite : CipherSuite) (shared : Bytes) : Keys where
  suite := suite
  psk := if config.earlyData = 0 then [] else demoPsk
  shared := shared

/-! ## The hello messages -/

/-- A ClientHello with an extension block is answered. -/
theorem gives_onClientHello {data hello : Bytes} {message : Message} {share : Option Extension}
    (hopens : Message.Opens data message) (hshare : message.keyShare? = .ok share)
    (hhello : Message.serverHello (config.agreement.publicKey config.privateKey)
      view.suite.code config.random = .ok hello) :
    Session.Gives (onClientHello config { type := .handshake, data }) view
      ⟨.serverHello data share hello, Nat.le_refl 6⟩ view := by
  have hmessage : Delivery.message { type := .handshake, data } = .ok message :=
    Delivery.message_eq_ok_iff.2 ⟨rfl, hopens⟩
  refine Session.gives_bind (Session.gives_ofResult hmessage) ?_
  refine Session.gives_bind (Session.gives_ofResult hshare) ?_
  refine Session.gives_get fun session shown => ?_
  rw [shown.suite]
  exact Session.gives_bind (Session.gives_ofResult hhello) (Session.gives_pure _)

/-- Every other record makes the server fail. -/
theorem error_onClientHello {delivery : Delivery} {session : Session}
    (h : delivery.type = .handshake → ∀ message share, Message.Opens delivery.data message →
      message.keyShare? ≠ .ok share) :
    ∃ e, (onClientHello config delivery session).result = .error e := by
  rw [onClientHello]
  cases hmessage : delivery.message with
  | error e => exact ⟨e, by rw [Act.ofResult_bind_error rfl]⟩
  | ok message =>
  rw [Act.ofResult_bind rfl]
  cases hshare : message.keyShare? with
  | error e => exact ⟨e, by rw [Act.ofResult_bind_error rfl]⟩
  | ok share =>
    obtain ⟨htype, hopens⟩ := Delivery.message_eq_ok_iff.1 hmessage
    exact absurd hshare (h htype message share hopens)

/-- The traffic secrets for early data after a ClientHello. -/
def earlySecrets (suite : CipherSuite) (clientHello : Bytes) : TrafficSecrets where
  client := KeyTree.earlyTraffic suite (KeyTree.early suite demoPsk)
    (KeyTree.digest suite [clientHello])
  server := []

/-- The view with the early secret of a ClientHello, if there is early data. -/
def helloView (config : Config) (suite : CipherSuite) (clientHello : Bytes) : Session.View where
  suite := suite
  early := if config.earlyData = 0 then none else some (KeyTree.early suite demoPsk)
  earlyTraffic := if config.earlyData = 0 then none else some (earlySecrets suite clientHello)

/-- The early secret comes from the pre-shared key, if there is early data. -/
theorem helloView_earlyOr (config : Config) (suite : CipherSuite) (clientHello shared : Bytes) :
    (helloView config suite clientHello).earlyOr = (config.keys suite shared).earlySecret := by
  rw [Session.View.earlyOr, helloView, Keys.earlySecret, Config.keys]
  split <;> rfl

/-- The view of a server that has got its handshake keys. -/
def flightView (config : Config) (keys : Keys) (clientHello hello : Bytes) : Session.View :=
  { helloView config keys.suite clientHello with
    early := some keys.earlySecret
    handshake := some keys.handshakeSecret
    write := keys.suite.epoch .handshake (keys.handshake [clientHello, hello]).server }

/-- The first message after the ServerHello is up, and two more before the
Finished message. -/
def flightStage (config : Config) (keys : Keys) (clientHello hello : Bytes) : Stage :=
  .flight (keys.handshake [clientHello, hello]) [clientHello, hello]
    (Message.encryptedExtensions config.acceptsEarlyData)
    [Message.certificate scriptedCertificate, Message.scriptedVerify]

/-- After the ServerHello the handshake keys are there, and the flight is up. -/
theorem gives_afterServerHello {clientHello hello key shared : Bytes} {share : Option Extension}
    (hkey : Extension.key share = .ok key)
    (hshared : config.agreement.exchange config.privateKey key = .ok shared) :
    let keys := config.keys suite shared
    Session.Gives (afterServerHello config clientHello share hello) { suite }
      ⟨flightStage config keys clientHello hello, Nat.lt_succ_self 5⟩
      (flightView config keys clientHello hello) := by
  intro keys
  have hhash := @Session.gives_transcriptHash (helloView config suite clientHello)
    [clientHello, hello]
  have hderive := @Session.gives_deriveHandshake (helloView config suite clientHello) shared
    (KeyTree.digest suite [clientHello, hello]) (KeyTree.length_digest_le suite _)
  have hearly : (helloView config suite clientHello).earlyOr = keys.earlySecret :=
    helloView_earlyOr config suite clientHello shared
  rw [hearly] at hderive
  have hrest : Session.Gives (do
      let hash ← Session.transcriptHash [clientHello, hello]
      let derived ← Session.onSchedule (KeySchedule.deriveHandshake shared hash)
      Session.install .write .handshake derived.1.server
      let verify ← Act.ofResult (Message.certificateVerify Message.ed25519 (List.replicate 64 0))
      return ⟨.flight derived.1 [clientHello, hello]
        (Message.encryptedExtensions config.acceptsEarlyData)
        [Message.certificate scriptedCertificate, verify], Nat.lt_succ_self 5⟩ :
          Act Session { s : Stage // rank s < rank (.serverHello clientHello share hello) })
      (helloView config suite clientHello)
      ⟨flightStage config keys clientHello hello, Nat.lt_succ_self 5⟩
      (flightView config keys clientHello hello) := by
    refine Session.gives_bind hhash ?_
    refine Session.gives_bind hderive ?_
    refine Session.gives_bind (Session.gives_install .write .handshake _) ?_
    refine Session.gives_bind (Session.gives_ofResult Message.certificateVerify_scripted) ?_
    exact Session.gives_pure _
  refine Session.gives_bind (Session.gives_ofResult hkey) ?_
  refine Session.gives_bind (Session.gives_ofResult hshared) ?_
  by_cases hnone : config.earlyData = 0
  · rw [helloView, if_pos hnone, if_pos hnone] at hrest
    dsimp only
    rw [if_neg (not_not_intro hnone)]
    exact hrest
  · rw [helloView, if_neg hnone, if_neg hnone] at hrest
    dsimp only
    rw [if_pos hnone]
    refine Session.gives_bind (Session.gives_transcriptHash [clientHello]) ?_
    exact Session.gives_bind (Session.gives_discard (Session.gives_deriveEarly demoPsk
      (KeyTree.length_digest_le suite [clientHello]))) hrest

/-- Without a key for a shared secret the server fails. -/
theorem error_afterServerHello {clientHello hello : Bytes} {share : Option Extension}
    {session : Session}
    (h : ∀ key shared, Extension.key share = .ok key →
      config.agreement.exchange config.privateKey key ≠ .ok shared) :
    ∃ e, (afterServerHello config clientHello share hello session).result = .error e := by
  rw [afterServerHello]
  cases hkey : Extension.key share with
  | error e => exact ⟨e, by rw [Act.ofResult_bind_error rfl]⟩
  | ok key =>
  rw [Act.ofResult_bind rfl]
  cases hshared : config.agreement.exchange config.privateKey key with
  | error e => exact ⟨e, by rw [Act.ofResult_bind_error rfl]⟩
  | ok shared => exact absurd hshared (h key shared hkey)

/-! ## The flight -/

/-- After the last message before the Finished message comes that one. -/
theorem gives_afterFlight_nil (secrets : TrafficSecrets) (transcript : List Bytes)
    (message : Bytes) :
    let messages := transcript ++ [message]
    Session.Gives (afterFlight secrets transcript message []) view
      ⟨.finished secrets messages (Message.finished (KeyTree.verifyData view.suite secrets.server
        (KeyTree.digest view.suite messages))), Nat.lt_succ_self 2⟩ view :=
  Session.gives_bind (Session.gives_verifyData secrets.server (transcript ++ [message]))
    (Session.gives_pure _)

/-- The script of a server that closes its end when it fails, or does not. -/
def scriptThat (config : Config) (closes : Bool) : Script Stage Summary :=
  { script config with closesOnFailure := closes }

variable {closes final : Bool} {secrets : TrafficSecrets} {transcript : List Bytes}

/-- The messages before the Finished message are sent. -/
theorem goes_flight {message : Bytes} {rest : List Bytes} {unread sent : Bytes}
    (hfits : ∀ data ∈ message :: rest, (view.write.stamp .handshake data).Fits) :
    let messages := transcript ++ message :: rest
    Party.Goes (scriptThat config closes) final
      { stage := .flight secrets transcript message rest, view, unread, sent }
      { stage := .finished secrets messages (Message.finished (KeyTree.verifyData view.suite
          secrets.server (KeyTree.digest view.suite messages))), view, unread
        sent := sent ++
          Record.stream ((message :: rest).map (view.write.stamp .handshake)) } := by
  induction rest generalizing transcript message sent with
  | nil =>
    have hone : Record.stream ([message].map (view.write.stamp .handshake)) =
        (view.write.stamp .handshake message).bytes := by simp [Record.stream]
    rw [hone]
    exact Party.goes_send rfl (by simp) (hfits message List.mem_cons_self)
      (gives_afterFlight_nil secrets transcript message)
  | cons next rest ih =>
    have hsent : Party.Goes (scriptThat config closes) final
        { stage := .flight secrets transcript message (next :: rest), view, unread, sent }
        { stage := .flight secrets (transcript ++ [message]) next rest, view, unread
          sent := sent ++ (view.write.stamp .handshake message).bytes } :=
      Party.goes_send rfl (by simp) (hfits message List.mem_cons_self) (Session.gives_pure _)
    refine hsent.trans ?_
    rw [List.append_cons transcript message (next :: rest), List.map_cons, Record.stream_cons,
      ← List.append_assoc]
    exact ih fun data h => hfits data (List.mem_cons_of_mem _ h)

/-! ## After the flight -/

/-- The client's Finished message is awaited under the client's handshake keys. -/
theorem gives_awaitFinished (secrets : Secrets) (transcript : List Bytes) :
    Session.Gives (awaitFinished secrets transcript) view
      ⟨.clientFinished secrets transcript, Nat.le_refl 1⟩
      { view with read := view.suite.epoch .handshake secrets.handshake.client } :=
  Session.gives_bind (Session.gives_install .read .handshake secrets.handshake.client)
    (Session.gives_pure _)

/-- Early data is skipped from here on. -/
theorem gives_skipping :
    Session.Gives (Session.onEndpoint (Endpoint.onTransport (Act.modify fun transport =>
      { transport with skipping := true }))) view () { view with skipping := true } :=
  fun _ shown => ⟨rfl, { shown with skipping := rfl }⟩

/-- The view of a server that has sent its flight. -/
def sentView (view : Session.View) (application : TrafficSecrets) : Session.View :=
  { view with write := view.suite.epoch .application application.server }

/-- Early data that is accepted is read next. -/
theorem gives_afterFinished_of_accepts {handshake message : Bytes} {early : TrafficSecrets}
    {left : Nat} (hhandshake : view.handshake = some handshake)
    (hearly : view.earlyTraffic = some early) (haccepts : config.acceptsEarlyData = true)
    (hcount : config.earlyData = (left + 1 : Nat)) :
    let messages := transcript ++ [message]
    let application := KeyTree.applicationTraffic view.suite (KeyTree.master view.suite handshake)
      (KeyTree.digest view.suite messages)
    Session.Gives (afterFinished config secrets transcript message) view
      ⟨.early { handshake := secrets, application } messages left, Nat.one_lt_two⟩
      { sentView view application with read := view.suite.epoch .earlyData early.client } := by
  intro messages application
  refine Session.gives_bind (Session.gives_transcriptHash messages) ?_
  refine Session.gives_bind (Session.gives_deriveApplication
    (KeyTree.length_digest_le view.suite messages) hhandshake) ?_
  refine Session.gives_bind (Session.gives_install .write .application _) ?_
  have hleft : config.earlyData.toNat = left + 1 := by omega
  simp only [haccepts, hleft]
  refine Session.gives_get fun session shown => ?_
  have htraffic : session.schedule.trafficSecrets (.number Level.earlyData.code) = .ok early := by
    have hstored : (Level.ofCode? (.number Level.earlyData.code)).bind session.schedule.traffic? =
        some early := shown.earlyTraffic.trans hearly
    rw [KeySchedule.trafficSecrets, hstored]
  refine Session.gives_bind (Session.gives_ofResult htraffic) ?_
  exact Session.gives_bind (Session.gives_install .read .earlyData early.client)
    (Session.gives_pure _)

/-- Otherwise the client's Finished message is read next, after early data
that is skipped if there is to be some. -/
theorem gives_afterFinished_of_not_accepts {handshake message : Bytes}
    (hhandshake : view.handshake = some handshake) (hskipping : view.skipping = false)
    (haccepts : config.acceptsEarlyData = false) :
    let messages := transcript ++ [message]
    let application := KeyTree.applicationTraffic view.suite (KeyTree.master view.suite handshake)
      (KeyTree.digest view.suite messages)
    Session.Gives (afterFinished config secrets transcript message) view
      ⟨.clientFinished { handshake := secrets, application } messages, Nat.one_lt_two⟩
      { sentView view application with
        read := view.suite.epoch .handshake secrets.client
        skipping := decide (config.earlyData ≠ 0) } := by
  intro messages application
  refine Session.gives_bind (Session.gives_transcriptHash messages) ?_
  refine Session.gives_bind (Session.gives_deriveApplication
    (KeyTree.length_digest_le view.suite messages) hhandshake) ?_
  refine Session.gives_bind (Session.gives_install .write .application _) ?_
  simp only [haccepts]
  by_cases hnone : config.earlyData = 0
  · have hskips : decide (config.earlyData ≠ 0) = view.skipping := by simp [hnone, hskipping]
    rw [if_neg (not_not_intro hnone), hskips]
    exact Session.gives_bind (gives_awaitFinished _ messages) (Session.gives_pure _)
  · have hskips : decide (config.earlyData ≠ 0) = true := by simp [hnone]
    rw [if_pos hnone, hskips]
    refine Session.gives_bind gives_skipping ?_
    exact Session.gives_bind (gives_awaitFinished _ messages) (Session.gives_pure _)

/-- The client's Finished message is checked. -/
theorem gives_onClientFinished {secrets : Secrets} {data : Bytes}
    (h : ∃ message, Message.Opens data message ∧ message.content = .finished
      (KeyTree.verifyData view.suite secrets.handshake.client
        (KeyTree.digest view.suite transcript))) :
    Session.Gives (onClientFinished secrets transcript { type := .handshake, data }) view
      ⟨.request view.skipped, Nat.le_refl 1⟩
      { view with read := view.suite.epoch .application secrets.application.client } := by
  obtain ⟨message, hopens, hcontent⟩ := h
  have hmessage : Delivery.message { type := .handshake, data } = .ok message :=
    Delivery.message_eq_ok_iff.2 ⟨rfl, hopens⟩
  refine Session.gives_bind (Session.gives_ofResult hmessage) ?_
  simp only [hcontent]
  refine Session.gives_bind (Session.gives_verifyData secrets.handshake.client transcript) ?_
  rw [if_neg (not_not_intro rfl)]
  refine Session.gives_get fun session shown => ?_
  rw [shown.skipped]
  exact Session.gives_bind (Session.gives_install .read .application secrets.application.client)
    (Session.gives_pure _)

/-- Every other record makes the server fail. -/
theorem error_onClientFinished {secrets : Secrets} {delivery : Delivery} {session : Session}
    (shown : session.Shows view)
    (h : delivery.type = .handshake → ∀ message, Message.Opens delivery.data message →
      message.content ≠ .finished (KeyTree.verifyData view.suite secrets.handshake.client
        (KeyTree.digest view.suite transcript))) :
    ∃ e, (onClientFinished secrets transcript delivery session).result = .error e := by
  rw [onClientFinished]
  cases hmessage : delivery.message with
  | error e => exact ⟨e, by rw [Act.ofResult_bind_error rfl]⟩
  | ok message =>
  obtain ⟨htype, hopens⟩ := Delivery.message_eq_ok_iff.1 hmessage
  rw [Act.ofResult_bind rfl]
  cases hcontent : message.content with
  | finished verifyData =>
    dsimp only
    refine Session.error_bind (Session.gives_verifyData secrets.handshake.client transcript) shown ?_
    intro session' _
    rw [if_pos (fun hsame => h htype message hopens (hcontent.trans (congrArg _ hsame)))]
    exact ⟨_, rfl⟩
  | _ => exact ⟨_, rfl⟩

/-- The records of deliveries under one epoch. -/
def recordsOf (epoch : Epoch) (deliveries : List Delivery) : List Record :=
  deliveries.map fun delivery => epoch.stamp delivery.type delivery.data

/-- Early data that is accepted is read to its end. -/
theorem goes_early {secrets : Secrets} {deliveries : List Delivery} {left : Nat}
    {bytes rest sent : Bytes} (hskipping : view.skipping = false)
    (hlength : deliveries.length = left + 1)
    (hlead : Record.LeadAll (recordsOf view.read deliveries) bytes rest) :
    Party.Goes (scriptThat config closes) final
      { stage := .early secrets transcript left, view, unread := bytes, sent }
      { stage := .clientFinished secrets transcript
        view := { view with read := view.suite.epoch .handshake secrets.handshake.client }
        unread := rest, sent } := by
  induction left generalizing deliveries bytes with
  | zero =>
    obtain ⟨delivery, rfl⟩ := List.length_eq_one_iff.1 hlength
    obtain ⟨_, hfirst, rfl⟩ := hlead
    exact Party.goes_receive_next rfl hskipping hfirst (gives_awaitFinished secrets transcript)
  | succ left ih =>
    obtain ⟨delivery, later, rfl⟩ := List.exists_cons_of_length_eq_add_one hlength
    obtain ⟨middle, hfirst, hlater⟩ := hlead
    exact Party.Goes.trans (Party.goes_receive_next rfl hskipping hfirst (Session.gives_pure _))
      (ih (Nat.succ.inj hlength) hlater)

/-- A server that waits for early data fails, unless as many records come as it
waits for and it does not fail after them. -/
theorem stops_early {secrets : Secrets} {left : Nat} {bytes sent : Bytes}
    (hskipping : view.skipping = false)
    (h : ∀ deliveries rest, deliveries.length = left + 1 →
      Record.LeadAll (recordsOf view.read deliveries) bytes rest →
      Party.Stops (scriptThat config closes) true
        { stage := .clientFinished secrets transcript
          view := { view with read := view.suite.epoch .handshake secrets.handshake.client }
          unread := rest, sent } sent) :
    Party.Stops (scriptThat config closes) true
      { stage := .early secrets transcript left, view, unread := bytes, sent } sent := by
  induction left generalizing bytes with
  | zero =>
    refine Party.stops_receive rfl fun dropped delivery rest hreceives => ?_
    have hfirst := hreceives.leads_of_not_skipping hskipping
    refine Party.Goes.stops (Party.goes_receive_next rfl hskipping hfirst
      (gives_awaitFinished secrets transcript)) ?_
    exact h [delivery] rest rfl ⟨rest, hfirst, rfl⟩
  | succ left ih =>
    refine Party.stops_receive rfl fun dropped delivery middle hreceives => ?_
    have hfirst := hreceives.leads_of_not_skipping hskipping
    refine Party.Goes.stops
      (Party.goes_receive_next rfl hskipping hfirst (Session.gives_pure _)) ?_
    refine ih fun deliveries rest hlength hlater => ?_
    exact h (delivery :: deliveries) rest (congrArg (· + 1) hlength) ⟨middle, hfirst, hlater⟩

end Server

end RecordLayer
