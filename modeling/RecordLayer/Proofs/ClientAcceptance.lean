import Mathlib.Data.Nat.Digits.Defs
import Mathlib.Tactic.Common
import RecordLayer.Exchange.Client
import RecordLayer.Proofs.Messages
import RecordLayer.Proofs.Places

/-!
# What a client accepts

A client finishes its script exactly when its peer has sent a flight that
`Client.Accepts` describes: a ServerHello to share a secret with,
messages up to the right Finished, and one more record, each in a record of
its own under the keys that follow from the messages before it.

The script is cut where the Finished message has been verified
(`Client.Verifies`): `goes_of_verifies` and `stops_of_not_verifies` decide
whether a client gets there.  The flight up to that message is an induction on
the messages where they are right, and on the bytes where they are not.
`Client.Decided` puts both parts together, from the end of the script backwards.
-/

namespace RecordLayer

namespace Client

/-! ## What the peer has to send -/

/-- The keys that a client with a shared secret derives. -/
def Config.keys (config : Config) (suite : CipherSuite) (shared : Bytes) : Keys where
  suite := suite
  psk := if config.earlyData = 0 then [] else demoPsk
  shared := shared

/-- A ServerHello carries a key that gives a shared secret. -/
def Config.Shares (config : Config) (serverHello shared : Bytes) : Prop :=
  ∃ message key, Message.Opens serverHello message ∧ message.Carries key ∧
    config.agreement.exchange config.privateKey key = .ok shared

/-- There is at most one such secret. -/
theorem Config.Shares.unique {config : Config} {serverHello shared shared' : Bytes}
    (h : config.Shares serverHello shared) (h' : config.Shares serverHello shared') :
    shared = shared' := by
  obtain ⟨message, key, hopens, hcarries, hshared⟩ := h
  obtain ⟨message', key', hopens', hcarries', hshared'⟩ := h'
  rw [← hopens.unique hopens'] at hcarries'
  rw [← hcarries.unique hcarries', hshared] at hshared'
  exact Except.ok.inj hshared'

/-- The first message in a record is not a Finished. -/
def Continues (data : Bytes) : Prop :=
  ∃ message, Message.Opens data message ∧ message.type ≠ Message.finishedType

/-- The first message in a record is a Finished with some verify data. -/
def Finishes (data verifyData : Bytes) : Prop :=
  ∃ message, Message.Opens data message ∧ message.type = Message.finishedType ∧
    message.content = .finished verifyData

/-- The records after the ServerHello.  The handshake records are sent under
the server's traffic secret of the handshake, and the last one under its
traffic secret of application data. -/
def laterRecords (keys : Keys) (secret : Bytes) (transcript messages : List Bytes)
    (finished : Bytes) (answer : Delivery) : List Record :=
  let application := keys.application (transcript ++ messages ++ [finished])
  (messages ++ [finished]).map ((keys.suite.epoch .handshake secret).stamp .handshake) ++
    [(keys.suite.epoch .application application.server).stamp answer.type answer.data]

/-- What follows the ServerHello in some bytes, as a client needs it: messages
and the right Finished, and one more record that leaves `rest`. -/
def Completes (keys : Keys) (secret : Bytes) (transcript : List Bytes) (bytes : Bytes)
    (answer : Delivery) (rest : Bytes) : Prop :=
  ∃ messages finished, (∀ data ∈ messages, Continues data) ∧
    Finishes finished (keys.verifyData secret (transcript ++ messages)) ∧
    Record.LeadAll (laterRecords keys secret transcript messages finished answer) bytes rest

/-- What follows the ServerHello in some bytes up to the right Finished
message, with `later` behind it. -/
structure Confirms (keys : Keys) (secret : Bytes) (transcript : List Bytes) (bytes : Bytes)
    (messages : List Bytes) (finished later : Bytes) : Prop where
  continues : ∀ data ∈ messages, Continues data
  finishes : Finishes finished (keys.verifyData secret (transcript ++ messages))
  leads : Record.LeadAll
    ((messages ++ [finished]).map ((keys.suite.epoch .handshake secret).stamp .handshake)) bytes later

/-- The messages of a handshake up to the server's Finished message, as a client knows them. -/
structure Flight where
  keys : Keys
  clientHello : Bytes
  serverHello : Bytes
  /-- The messages between the ServerHello and the Finished message. -/
  messages : List Bytes
  finished : Bytes

namespace Flight

variable (flight : Flight)

def hellos : List Bytes := [flight.clientHello, flight.serverHello]

/-- The traffic secrets of the handshake. -/
def secrets : TrafficSecrets := flight.keys.handshake flight.hellos

/-- All messages up to the server's Finished message. -/
def transcript : List Bytes := flight.hellos ++ flight.messages ++ [flight.finished]

/-- The traffic secrets of application data. -/
def application : TrafficSecrets := flight.keys.application flight.transcript

/-- The client's own Finished message. -/
def clientFinished : Bytes :=
  Message.finished (flight.keys.verifyData flight.secrets.client flight.transcript)

/-- What the client sends after the flight: its Finished message and its ping. -/
def answer : List Record :=
  [(flight.keys.suite.epoch .handshake flight.secrets.client).stamp
      .handshake flight.clientFinished,
    (flight.keys.suite.epoch .application flight.application.client).stamp
      .applicationData pingPayload]

end Flight

/-- The bytes that a client has received once it has verified the server's
Finished message: the records of a flight, with `later` behind them. -/
structure Verifies (config : Config) (suite : CipherSuite) (bytes : Bytes) (flight : Flight)
    (later : Bytes) : Prop where
  keys : ∃ shared, config.Shares flight.serverHello shared ∧ flight.keys = config.keys suite shared
  hello : flight.clientHello = config.hello
  confirms : ∃ middle, (Epoch.stamp {} .handshake flight.serverHello).Leads bytes middle ∧
    Confirms flight.keys flight.secrets.server flight.hellos middle flight.messages flight.finished
      later

/-- What a client needs in front of the bytes that it receives, from the
ServerHello on. -/
def Accepts (config : Config) (suite : CipherSuite) (bytes : Bytes) (answer : Delivery)
    (rest : Bytes) : Prop :=
  ∃ serverHello shared later,
    (Epoch.stamp {} .handshake serverHello).Leads bytes later ∧ config.Shares serverHello shared ∧
    let keys := config.keys suite shared
    let transcript := [config.hello, serverHello]
    Completes keys (keys.handshake transcript).server transcript later answer rest

/-! ## Decisions -/

/-- From a place a client either comes to its end, with the only delivery that
`accepts` allows and what it leaves, or there is none and it fails. -/
def Decided (config : Config) (place : Party.Place Stage) (accepts : Delivery → Bytes → Prop) :
    Prop :=
  (∃ delivery rest view sent,
    (∀ delivery' rest', accepts delivery' rest' ↔ delivery' = delivery ∧ rest' = rest) ∧
    Party.Goes (script config) true place
      { stage := .done delivery.data, view, unread := rest, sent }) ∨
  ((∀ delivery rest, ¬accepts delivery rest) ∧ Party.Fails (script config) true place)

variable {config : Config}

/-- A decision is put off by going on. -/
theorem Decided.of_goes {place place' : Party.Place Stage} {accepts : Delivery → Bytes → Prop}
    (hgoes : Party.Goes (script config) true place place')
    (h : Decided config place' accepts) : Decided config place accepts := by
  rcases h with ⟨delivery, rest, view, sent, haccepts, hdone⟩ | ⟨hnone, hfails⟩
  · exact Or.inl ⟨delivery, rest, view, sent, haccepts, hgoes.trans hdone⟩
  · exact Or.inr ⟨hnone, hgoes.fails hfails⟩

/-- What counts is which deliveries are accepted. -/
theorem Decided.congr {place : Party.Place Stage} {accepts accepts' : Delivery → Bytes → Prop}
    (h : Decided config place accepts)
    (hiff : ∀ delivery rest, accepts delivery rest ↔ accepts' delivery rest) :
    Decided config place accepts' := by
  rcases h with ⟨delivery, rest, view, sent, haccepts, hdone⟩ | ⟨hnone, hfails⟩
  · exact Or.inl ⟨delivery, rest, view, sent,
      fun delivery' rest' => (hiff delivery' rest').symm.trans (haccepts delivery' rest'), hdone⟩
  · exact Or.inr ⟨fun delivery rest h => hnone delivery rest ((hiff delivery rest).2 h), hfails⟩

/-! ## From the end backwards -/

variable {view : Session.View} {unread sent : Bytes}

/-- The answer to the ping is any record of the read epoch. -/
theorem decided_pong (hskipping : view.skipping = false) :
    Decided config { stage := .pong, view, unread, sent } fun delivery rest =>
      (view.read.stamp delivery.type delivery.data).Leads unread rest := by
  by_cases h : ∃ type data rest, (view.read.stamp type data).Leads unread rest
  · obtain ⟨type, data, rest, hleads⟩ := h
    refine Or.inl ⟨{ type, data }, rest, view, sent, fun delivery' rest' => ?_,
      Party.goes_receive_next rfl hskipping hleads (Session.gives_pure _)⟩
    constructor
    · intro h
      obtain ⟨htype, hdata, hrest⟩ := h.unique hleads
      exact ⟨by rw [← htype, ← hdata], hrest⟩
    · rintro ⟨rfl, rfl⟩
      exact hleads
  · refine Or.inr ⟨fun delivery rest hleads => h ⟨_, _, rest, hleads⟩, ?_⟩
    refine Party.Stops.fails (Party.stops_of_nothing rfl fun dropped delivery rest hreceives => ?_)
    exact h ⟨_, _, rest, hreceives.leads_of_not_skipping hskipping⟩

/-- The view of a client that has got its application keys. -/
def pingView (view : Session.View) (application : TrafficSecrets) : Session.View :=
  { view with
    write := view.suite.epoch .application application.client
    read := view.suite.epoch .application application.server }

/-- The Finished message and the ping are sent. -/
theorem goes_finished {final : Bool} {application : TrafficSecrets} {message : Bytes}
    (hfits : (view.write.stamp .handshake message).Fits)
    (hsize : application.client.length ≤ 48) :
    Party.Goes (script config) final { stage := .finished application message, view, unread, sent }
      { stage := .pong, view := pingView view application, unread
        sent := sent ++ (view.write.stamp .handshake message).bytes ++
          ((view.suite.epoch .application application.client).stamp
            .applicationData pingPayload).bytes } := by
  have hafter : Session.Gives (afterFinished config application message) view
      ⟨.ping, Nat.one_lt_two⟩ (pingView view application) :=
    Session.gives_bind (Session.gives_install .write .application application.client)
      (Session.gives_bind (Session.gives_install .read .application application.server)
        (Session.gives_pure _))
  have hping : ((view.suite.epoch .application application.client).stamp .applicationData
      pingPayload).Fits := by
    apply CipherSuite.fits_stamp
    have : pingPayload.length = 4 := rfl
    omega
  exact Party.Goes.trans (Party.goes_send rfl (by simp) hfits hafter)
    (Party.goes_send rfl (by simp) hping (Session.gives_pure _))

/-- After the Finished message the client only waits for the answer. -/
theorem decided_finished {application : TrafficSecrets} {message : Bytes}
    (hskipping : view.skipping = false) (hfits : (view.write.stamp .handshake message).Fits)
    (hsize : application.client.length ≤ 48) :
    Decided config { stage := .finished application message, view, unread, sent }
      fun delivery rest =>
        ((view.suite.epoch .application application.server).stamp
          delivery.type delivery.data).Leads unread rest :=
  Decided.of_goes (goes_finished hfits hsize) (decided_pong hskipping)

/-! ## The flight up to the Finished message -/

variable {keys : Keys} {secrets : TrafficSecrets} {transcript : List Bytes}

/-- A message before the Finished message is only remembered. -/
theorem gives_onFlight_of_continues {data : Bytes} (h : Continues data) :
    Session.Gives (onFlight config secrets transcript { type := .handshake, data }) view
      ⟨.flight secrets (transcript ++ [data]), Nat.le_refl 3⟩ view := by
  obtain ⟨message, hopens, htype⟩ := h
  have hmessage : Delivery.message { type := .handshake, data } = .ok message :=
    Delivery.message_eq_ok_iff.2 ⟨rfl, hopens⟩
  refine Session.gives_bind (Session.gives_ofResult hmessage) ?_
  cases hcontent : message.content with
  | finished verifyData => exact absurd (hopens.content_eq_finished_iff.1 ⟨_, hcontent⟩) htype
  | _ => exact Session.gives_pure _

/-- The right Finished message is answered. -/
theorem gives_onFlight_of_finishes {data : Bytes} (hsuite : view.suite = keys.suite)
    (hhandshake : view.handshake = some keys.handshakeSecret)
    (h : Finishes data (keys.verifyData secrets.server transcript)) :
    Session.Gives (onFlight config secrets transcript { type := .handshake, data }) view
      ⟨.finished (keys.application (transcript ++ [data]))
        (Message.finished (keys.verifyData secrets.client (transcript ++ [data]))), Nat.le_succ 2⟩
      { view with write := keys.suite.epoch .handshake secrets.client } := by
  obtain ⟨suite, psk, shared⟩ := keys
  obtain rfl : view.suite = suite := hsuite
  obtain ⟨message, hopens, -, hcontent⟩ := h
  have hmessage : Delivery.message { type := .handshake, data } = .ok message :=
    Delivery.message_eq_ok_iff.2 ⟨rfl, hopens⟩
  refine Session.gives_bind (Session.gives_ofResult hmessage) ?_
  simp only [hcontent]
  refine Session.gives_bind (Session.gives_verifyData secrets.server transcript) ?_
  rw [if_neg (by exact not_not_intro rfl)]
  refine Session.gives_bind (Session.gives_transcriptHash (transcript ++ [data])) ?_
  refine Session.gives_bind (Session.gives_deriveApplication
    (KeyTree.length_digest_le view.suite (transcript ++ [data])) hhandshake) ?_
  refine Session.gives_bind (Session.gives_install .write .handshake secrets.client) ?_
  exact Session.gives_bind (Session.gives_verifyData secrets.client (transcript ++ [data]))
    (Session.gives_pure _)

/-- Every other record makes the client fail. -/
theorem error_onFlight {delivery : Delivery} {session : Session} (shown : session.Shows view)
    (hsuite : view.suite = keys.suite)
    (hcontinues : delivery.type = .handshake → ¬Continues delivery.data)
    (hfinishes : delivery.type = .handshake →
      ¬Finishes delivery.data (keys.verifyData secrets.server transcript)) :
    ∃ e, (onFlight config secrets transcript delivery session).result = .error e := by
  rw [onFlight]
  cases hmessage : delivery.message with
  | error e => exact ⟨e, by rw [Act.ofResult_bind_error rfl]⟩
  | ok message =>
  obtain ⟨htype, hopens⟩ := Delivery.message_eq_ok_iff.1 hmessage
  rw [Act.ofResult_bind rfl]
  cases hcontent : message.content with
  | finished verifyData =>
    dsimp only
    have hverify : verifyData ≠ keys.verifyData secrets.server transcript := by
      rintro rfl
      exact hfinishes htype
        ⟨message, hopens, hopens.content_eq_finished_iff.1 ⟨_, hcontent⟩, hcontent⟩
    refine Session.error_bind (Session.gives_verifyData secrets.server transcript) shown ?_
    intro session' _
    rw [if_pos (by rw [hsuite]; exact hverify)]
    exact ⟨_, rfl⟩
  | _ =>
    refine absurd ⟨message, hopens, fun hfinished => ?_⟩ (hcontinues htype)
    obtain ⟨_, h⟩ := hopens.content_eq_finished_iff.2 hfinished
    rw [hcontent] at h
    cases h

/-- The right Finished message is none that a flight goes on after. -/
theorem not_finishes_of_continues {data verifyData : Bytes} (h : Continues data) :
    ¬Finishes data verifyData := by
  rintro ⟨message', hopens', htype', -⟩
  obtain ⟨message, hopens, htype⟩ := h
  rw [hopens.unique hopens'] at htype
  exact htype htype'

/-- One more message in front. -/
theorem Confirms.cons {secret data bytes middle : Bytes} {messages : List Bytes}
    {finished later : Bytes} (hdata : Continues data)
    (hlead : ((keys.suite.epoch .handshake secret).stamp .handshake data).Leads bytes middle)
    (h : Confirms keys secret (transcript ++ [data]) middle messages finished later) :
    Confirms keys secret transcript bytes (data :: messages) finished later where
  continues := List.forall_mem_cons.2 ⟨hdata, h.continues⟩
  finishes := by
    have hfinishes := h.finishes
    rw [List.append_assoc] at hfinishes
    exact hfinishes
  leads := ⟨middle, hlead, h.leads⟩

/-- One message less in front. -/
theorem Confirms.tail {secret data bytes : Bytes} {messages : List Bytes} {finished later : Bytes}
    (h : Confirms keys secret transcript bytes (data :: messages) finished later) :
    Continues data ∧ ∃ middle,
      ((keys.suite.epoch .handshake secret).stamp .handshake data).Leads bytes middle ∧
      Confirms keys secret (transcript ++ [data]) middle messages finished later := by
  obtain ⟨middle, hlead, hleads⟩ := h.leads
  refine ⟨h.continues data List.mem_cons_self, middle, hlead, ?_, ?_, hleads⟩
  · exact fun data' h' => h.continues data' (List.mem_cons_of_mem _ h')
  · rw [List.append_assoc]
    exact h.finishes

/-- The Finished message alone. -/
theorem confirms_nil {secret bytes finished later : Bytes} :
    Confirms keys secret transcript bytes [] finished later ↔
      Finishes finished (keys.verifyData secret transcript) ∧
        ((keys.suite.epoch .handshake secret).stamp .handshake finished).Leads bytes later := by
  constructor
  · intro h
    obtain ⟨_, hlead, rfl⟩ := h.leads
    have hfinishes := h.finishes
    rw [List.append_nil] at hfinishes
    exact ⟨hfinishes, hlead⟩
  · intro h
    refine ⟨by simp, ?_, later, h.2, rfl⟩
    rw [List.append_nil]
    exact h.1

/-- There is at most one such flight in front of some bytes. -/
theorem Confirms.unique {secret bytes : Bytes} {messages messages' : List Bytes}
    {finished finished' later later' : Bytes}
    (h : Confirms keys secret transcript bytes messages finished later)
    (h' : Confirms keys secret transcript bytes messages' finished' later') :
    messages = messages' ∧ finished = finished' ∧ later = later' := by
  induction messages generalizing messages' transcript bytes with
  | nil =>
    obtain ⟨hfinishes, hlead⟩ := confirms_nil.1 h
    cases messages' with
    | nil =>
      obtain ⟨-, hdata, hlater⟩ := hlead.unique (confirms_nil.1 h').2
      exact ⟨rfl, hdata, hlater⟩
    | cons data' messages' =>
      obtain ⟨hdata', _, hlead', -⟩ := h'.tail
      obtain ⟨-, rfl, -⟩ := hlead.unique hlead'
      exact absurd hfinishes (not_finishes_of_continues hdata')
  | cons data messages ih =>
    obtain ⟨hdata, _, hlead, htail⟩ := h.tail
    cases messages' with
    | nil =>
      obtain ⟨hfinishes, hlead'⟩ := confirms_nil.1 h'
      obtain ⟨-, rfl, -⟩ := hlead.unique hlead'
      exact absurd hfinishes (not_finishes_of_continues hdata)
    | cons data' messages' =>
      obtain ⟨-, _, hlead', htail'⟩ := h'.tail
      obtain ⟨-, rfl, rfl⟩ := hlead.unique hlead'
      obtain ⟨rfl, hfinished, hlater⟩ := ih htail htail'
      exact ⟨rfl, hfinished, hlater⟩

/-- What completes a flight is one that is confirmed, and one more record. -/
theorem completes_iff {secret bytes : Bytes} {answer : Delivery} {rest : Bytes} :
    Completes keys secret transcript bytes answer rest ↔
      ∃ messages finished later,
        Confirms keys secret transcript bytes messages finished later ∧
        ((keys.suite.epoch .application
          (keys.application (transcript ++ messages ++ [finished])).server).stamp
            answer.type answer.data).Leads later rest := by
  constructor
  · intro h
    obtain ⟨messages, finished, hmessages, hfinished, hlead⟩ := h
    obtain ⟨later, hflight, _, hanswer, rfl⟩ := Record.leadAll_append.1 hlead
    exact ⟨messages, finished, later, ⟨hmessages, hfinished, hflight⟩, hanswer⟩
  · intro h
    obtain ⟨messages, finished, later, hconfirms, hanswer⟩ := h
    refine ⟨messages, finished, hconfirms.continues, hconfirms.finishes, ?_⟩
    exact Record.leadAll_append.2 ⟨later, hconfirms.leads, rest, hanswer, rfl⟩

/-- The view of a client that has verified the server's Finished message. -/
def finishedView (view : Session.View) (keys : Keys) (secret : Bytes) : Session.View :=
  { view with write := keys.suite.epoch .handshake secret }

/-- On a flight that is confirmed the client goes on to its own Finished message. -/
theorem goes_of_confirms {final : Bool} {messages : List Bytes} {bytes finished later : Bytes}
    (hsuite : view.suite = keys.suite) (hhandshake : view.handshake = some keys.handshakeSecret)
    (hread : view.read = keys.suite.epoch .handshake secrets.server)
    (hskipping : view.skipping = false)
    (h : Confirms keys secrets.server transcript bytes messages finished later) :
    let longer := transcript ++ messages ++ [finished]
    Party.Goes (script config) final { stage := .flight secrets transcript, view, unread := bytes, sent }
      { stage := .finished (keys.application longer)
          (Message.finished (keys.verifyData secrets.client longer))
        view := finishedView view keys secrets.client, unread := later, sent } := by
  induction messages generalizing transcript bytes with
  | nil =>
    obtain ⟨hfinishes, hlead⟩ := confirms_nil.1 h
    rw [← hread] at hlead
    rw [List.append_nil]
    exact Party.goes_receive_next rfl hskipping hlead
      (gives_onFlight_of_finishes hsuite hhandshake hfinishes)
  | cons data messages ih =>
    obtain ⟨hdata, middle, hlead, htail⟩ := h.tail
    rw [← hread] at hlead
    have hrest := ih htail
    rw [List.append_assoc transcript] at hrest
    exact Party.Goes.trans
      (Party.goes_receive_next rfl hskipping hlead (gives_onFlight_of_continues hdata)) hrest

/-- Without such a flight the client fails. -/
theorem stops_of_not_confirms {bytes : Bytes} (hsuite : view.suite = keys.suite)
    (hread : view.read = keys.suite.epoch .handshake secrets.server)
    (hskipping : view.skipping = false)
    (hnone : ∀ messages finished later,
      ¬Confirms keys secrets.server transcript bytes messages finished later) :
    Party.Stops (script config) true
      { stage := .flight secrets transcript, view, unread := bytes, sent } sent := by
  -- induction on the bytes that are there: every message takes some
  induction hn : bytes.length using Nat.strongRecOn generalizing bytes transcript with
  | ind n ih =>
  subst hn
  refine Party.stops_receive rfl fun dropped delivery later hreceives => ?_
  obtain ⟨type, data⟩ := delivery
  have h := hreceives.leads_of_not_skipping hskipping
  have h' : ((keys.suite.epoch .handshake secrets.server).stamp type data).Leads bytes later :=
    hread ▸ h
  by_cases hcontinues : type = .handshake ∧ Continues data
  · obtain ⟨rfl, hdata⟩ := hcontinues
    refine Party.Goes.stops
      (Party.goes_receive_next rfl hskipping h (gives_onFlight_of_continues hdata)) ?_
    refine ih later.length h.length_lt ?_ rfl
    exact fun messages finished later' hconfirms => hnone _ _ _ (hconfirms.cons hdata h')
  · refine Party.stops_next rfl hreceives fun session shown => ?_
    refine error_onFlight shown hsuite (fun htype hdata => hcontinues ⟨htype, hdata⟩) ?_
    intro htype hdata
    obtain rfl : type = .handshake := htype
    exact hnone [] data later (confirms_nil.2 ⟨hdata, h'⟩)

/-! ## The ServerHello -/

/-- The view after a ServerHello. -/
def afterServerHello (view : Session.View) (keys : Keys) (transcript : List Bytes) :
    Session.View :=
  { view with
    early := some keys.earlySecret
    handshake := some keys.handshakeSecret
    read := keys.suite.epoch .handshake (keys.handshake transcript).server }

/-- A ServerHello with a key for a shared secret gives the handshake keys. -/
theorem gives_onServerHello {data shared : Bytes} {suite : CipherSuite}
    (hsuite : view.suite = suite)
    (hearly : view.earlyOr = (config.keys suite shared).earlySecret)
    (h : config.Shares data shared) :
    let keys := config.keys suite shared
    let transcript := [config.hello, data]
    Session.Gives (onServerHello config { type := .handshake, data }) view
      ⟨.flight (keys.handshake transcript) transcript, Nat.le_refl 3⟩
      (afterServerHello view keys transcript) := by
  intro keys transcript
  subst hsuite
  obtain ⟨message, key, hopens, hcarries, hshared⟩ := h
  have hmessage : Delivery.message { type := .handshake, data } = .ok message :=
    Delivery.message_eq_ok_iff.2 ⟨rfl, hopens⟩
  obtain ⟨share, hshare, hkey⟩ := Message.carries_iff.1 hcarries
  refine Session.gives_bind (Session.gives_ofResult hmessage) ?_
  refine Session.gives_bind (Session.gives_ofResult hshare) ?_
  refine Session.gives_bind (Session.gives_ofResult hkey) ?_
  refine Session.gives_bind (Session.gives_ofResult hshared) ?_
  refine Session.gives_bind (Session.gives_transcriptHash transcript) ?_
  refine Session.gives_bind (Session.gives_deriveHandshake shared
    (KeyTree.length_digest_le view.suite transcript)) ?_
  have hsecret : KeyTree.handshake view.suite view.earlyOr shared = keys.handshakeSecret := by
    rw [hearly]
    rfl
  rw [hsecret, hearly]
  exact Session.gives_bind (Session.gives_install .read .handshake _) (Session.gives_pure _)

/-- Every other record makes the client fail. -/
theorem error_onServerHello {delivery : Delivery} {session : Session}
    (h : delivery.type = .handshake → ∀ shared, ¬config.Shares delivery.data shared) :
    ∃ e, (onServerHello config delivery session).result = .error e := by
  rw [onServerHello]
  cases hmessage : delivery.message with
  | error e => exact ⟨e, by rw [Act.ofResult_bind_error rfl]⟩
  | ok message =>
  rw [Act.ofResult_bind rfl]
  cases hshare : message.keyShare? with
  | error e => exact ⟨e, by rw [Act.ofResult_bind_error rfl]⟩
  | ok share =>
  rw [Act.ofResult_bind rfl]
  cases hkey : Extension.key share with
  | error e => exact ⟨e, by rw [Act.ofResult_bind_error rfl]⟩
  | ok key =>
  rw [Act.ofResult_bind rfl]
  cases hshared : config.agreement.exchange config.privateKey key with
  | error e => exact ⟨e, by rw [Act.ofResult_bind_error rfl]⟩
  | ok shared =>
    obtain ⟨htype, hopens⟩ := Delivery.message_eq_ok_iff.1 hmessage
    exact absurd ⟨message, key, hopens, Message.carries_iff.2 ⟨share, hshare, hkey⟩, hshared⟩
      (h htype shared)

/-! ## The whole flight -/

/-- There is at most one flight that a client verifies in some bytes. -/
theorem Verifies.unique {suite : CipherSuite} {bytes later later' : Bytes} {flight flight' : Flight}
    (h : Verifies config suite bytes flight later)
    (h' : Verifies config suite bytes flight' later') : flight = flight' ∧ later = later' := by
  obtain ⟨⟨shared, hshares, hkeys⟩, hhello, middle, hlead, hconfirms⟩ := h
  obtain ⟨⟨shared', hshares', hkeys'⟩, hhello', middle', hlead', hconfirms'⟩ := h'
  obtain ⟨keys, clientHello, serverHello, messages, finished⟩ := flight
  obtain ⟨keys', clientHello', serverHello', messages', finished'⟩ := flight'
  dsimp only at hshares hkeys hhello hlead hshares' hkeys' hhello' hlead'
  obtain ⟨-, rfl, rfl⟩ := hlead.unique hlead'
  obtain rfl := hshares.unique hshares'
  subst hkeys hkeys' hhello hhello'
  obtain ⟨hmessages, hfinished, hlater⟩ := hconfirms.unique hconfirms'
  dsimp only at hmessages hfinished
  subst hmessages hfinished
  exact ⟨rfl, hlater⟩

/-- What a client accepts is a flight that it verifies, and one more record. -/
theorem accepts_iff {suite : CipherSuite} {bytes : Bytes} {answer : Delivery} {rest : Bytes} :
    Accepts config suite bytes answer rest ↔
      ∃ flight later, Verifies config suite bytes flight later ∧
        ((flight.keys.suite.epoch .application flight.application.server).stamp
          answer.type answer.data).Leads later rest := by
  constructor
  · intro h
    obtain ⟨serverHello, shared, middle, hlead, hshares, hcompletes⟩ := h
    obtain ⟨messages, finished, later, hconfirms, hanswer⟩ := completes_iff.1 hcompletes
    let flight : Flight :=
      { keys := config.keys suite shared, clientHello := config.hello, serverHello, messages
        finished }
    exact ⟨flight, later, ⟨⟨shared, hshares, rfl⟩, rfl, middle, hlead, hconfirms⟩, hanswer⟩
  · intro h
    obtain ⟨⟨keys, clientHello, serverHello, messages, finished⟩, later, hverifies, hanswer⟩ := h
    obtain ⟨⟨shared, hshares, rfl⟩, rfl, middle, hlead, hconfirms⟩ := hverifies
    exact ⟨serverHello, shared, middle, hlead, hshares,
      completes_iff.2 ⟨messages, finished, later, hconfirms, hanswer⟩⟩

/-- The view of a client that has verified a flight. -/
def verifiedView (view : Session.View) (flight : Flight) : Session.View :=
  finishedView (afterServerHello view flight.keys flight.hellos) flight.keys flight.secrets.client

/-- On a flight that it verifies the client goes on to its Finished message. -/
theorem goes_of_verifies {final : Bool} {suite : CipherSuite} (hsuite : view.suite = suite)
    (hearly : ∀ shared, view.earlyOr = (config.keys suite shared).earlySecret)
    (hread : view.read = {}) (hskipping : view.skipping = false) {flight : Flight}
    {bytes later : Bytes} (h : Verifies config suite bytes flight later) :
    Party.Goes (script config) final { stage := .serverHello, view, unread := bytes, sent }
      { stage := .finished flight.application flight.clientFinished
        view := verifiedView view flight, unread := later, sent } := by
  obtain ⟨keys, clientHello, serverHello, messages, finished⟩ := flight
  obtain ⟨⟨shared, hshares, rfl⟩, rfl, middle, hlead, hconfirms⟩ := h
  have hlead' : (view.read.stamp .handshake serverHello).Leads bytes middle := hread ▸ hlead
  refine Party.Goes.trans (Party.goes_receive_next rfl hskipping hlead'
    (gives_onServerHello hsuite (hearly shared) hshares)) ?_
  exact goes_of_confirms hsuite rfl rfl hskipping hconfirms

/-- Without a flight to verify the client fails. -/
theorem stops_of_not_verifies {suite : CipherSuite} (hsuite : view.suite = suite)
    (hearly : ∀ shared, view.earlyOr = (config.keys suite shared).earlySecret)
    (hread : view.read = {}) (hskipping : view.skipping = false) {bytes : Bytes}
    (hnone : ∀ flight later, ¬Verifies config suite bytes flight later) :
    Party.Stops (script config) true { stage := .serverHello, view, unread := bytes, sent }
      sent := by
  refine Party.stops_receive rfl fun dropped delivery middle hreceives => ?_
  obtain ⟨type, data⟩ := delivery
  have h := hreceives.leads_of_not_skipping hskipping
  by_cases hshares : type = .handshake ∧ ∃ shared, config.Shares data shared
  · obtain ⟨rfl, shared, hshares⟩ := hshares
    refine Party.Goes.stops (Party.goes_receive_next rfl hskipping h
      (gives_onServerHello hsuite (hearly shared) hshares)) ?_
    have hkeys : view.suite = (config.keys suite shared).suite := hsuite
    refine stops_of_not_confirms hkeys rfl hskipping fun messages finished later hconfirms => ?_
    have hlead : (Epoch.stamp {} .handshake data).Leads bytes middle := hread ▸ h
    let flight : Flight :=
      { keys := config.keys suite shared, clientHello := config.hello, serverHello := data
        messages, finished }
    exact hnone flight later ⟨⟨shared, hshares, rfl⟩, rfl, middle, hlead, hconfirms⟩
  · refine Party.stops_next rfl hreceives fun session _ => ?_
    exact error_onServerHello fun htype shared h => hshares ⟨htype, shared, h⟩

/-- The Finished message that answers a flight fits its record. -/
theorem fits_clientFinished {view : Session.View} (flight : Flight) :
    ((verifiedView view flight).write.stamp .handshake flight.clientFinished).Fits := by
  apply CipherSuite.fits_stamp
  have hsecret : flight.secrets.client.length = flight.keys.suite.hash.size :=
    KeyTree.length_expand ..
  have hsize := flight.keys.suite.size_hash.2
  rw [Flight.clientFinished, Message.length_finished, Keys.verifyData, KeyTree.length_verifyData]
  omega

theorem length_application_le (flight : Flight) : flight.application.client.length ≤ 48 :=
  Nat.le_trans (Nat.le_of_eq (KeyTree.length_expand ..)) flight.keys.suite.size_hash.2

/-- After a flight that it has verified the client sends its answer. -/
theorem goes_answer {final : Bool} {flight : Flight} (hsuite : view.suite = flight.keys.suite) :
    Party.Goes (script config) final
      { stage := .finished flight.application flight.clientFinished, view := verifiedView view flight
        unread, sent }
      { stage := .pong, view := pingView (verifiedView view flight) flight.application, unread
        sent := sent ++ Record.stream flight.answer } := by
  have hanswer : Record.stream flight.answer =
      ((verifiedView view flight).write.stamp .handshake flight.clientFinished).bytes ++
        (((verifiedView view flight).suite.epoch .application flight.application.client).stamp
          .applicationData pingPayload).bytes := by
    have hsame : (verifiedView view flight).suite = flight.keys.suite := hsuite
    rw [hsame, Flight.answer, Record.stream_cons, Record.stream_cons, Record.stream_nil,
      List.append_nil]
    rfl
  rw [hanswer, ← List.append_assoc]
  exact goes_finished (fits_clientFinished flight) (length_application_le flight)

/-- From the ServerHello on, the peer's bytes are accepted or the client fails. -/
theorem decided_serverHello {suite : CipherSuite} (hsuite : view.suite = suite)
    (hearly : ∀ shared, view.earlyOr = (config.keys suite shared).earlySecret)
    (hread : view.read = {}) (hskipping : view.skipping = false) :
    Decided config { stage := .serverHello, view, unread, sent } (Accepts config suite unread) := by
  by_cases hverifies : ∃ flight later, Verifies config suite unread flight later
  · obtain ⟨flight, later, hverifies⟩ := hverifies
    refine Decided.of_goes (goes_of_verifies hsuite hearly hread hskipping hverifies) ?_
    refine Decided.congr (decided_finished hskipping (fits_clientFinished flight)
      (length_application_le flight)) fun answer rest => ?_
    have hkeys : (verifiedView view flight).suite = flight.keys.suite := by
      obtain ⟨shared, -, hkeys⟩ := hverifies.keys
      rw [hkeys]
      exact hsuite
    rw [hkeys, accepts_iff]
    constructor
    · intro hanswer
      exact ⟨flight, later, hverifies, hanswer⟩
    · intro h
      obtain ⟨flight', later', hverifies', hanswer⟩ := h
      obtain ⟨rfl, rfl⟩ := hverifies.unique hverifies'
      exact hanswer
  · refine Or.inr ⟨fun answer rest haccepts => ?_, ?_⟩
    · obtain ⟨flight, later, h, -⟩ := accepts_iff.1 haccepts
      exact hverifies ⟨flight, later, h⟩
    · refine Party.Stops.fails (stops_of_not_verifies hsuite hearly hread hskipping ?_)
      exact fun flight later h => hverifies ⟨flight, later, h⟩

/-! ## The ClientHello and early data -/

/-- The epoch of early data after a ClientHello. -/
def earlyEpoch (suite : CipherSuite) (hello : Bytes) : Epoch :=
  suite.epoch .earlyData
    (KeyTree.earlyTraffic suite (KeyTree.early suite demoPsk) (KeyTree.digest suite [hello]))

/-- The view after the ClientHello was sent. -/
def helloView (config : Config) (suite : CipherSuite) : Session.View where
  suite := suite
  write := if config.earlyData = 0 then {} else earlyEpoch suite config.hello
  early := if config.earlyData = 0 then none else some (KeyTree.early suite demoPsk)
  earlyTraffic := if config.earlyData = 0 then none
    else some { client := (earlyEpoch suite config.hello).secret, server := [] }

/-- Without early data the client waits for the ServerHello. -/
theorem gives_afterHello_zero {suite : CipherSuite} (hnone : config.earlyData = 0) :
    Session.Gives (afterHello config) { suite } ⟨.serverHello, Nat.lt_add_left _ (Nat.lt_succ_self 3)⟩
      (helloView config suite) := by
  rw [helloView, if_pos hnone, if_pos hnone, if_pos hnone, afterHello]
  dsimp only
  rw [if_neg (not_not_intro hnone)]
  split
  next => exact Session.gives_pure _
  next left hcount => rw [hnone] at hcount; cases hcount

theorem rank_early_lt {left : Nat} (hsome : config.earlyData = (left + 1 : Nat)) :
    rank config (.early 0 left) < rank config .hello := by
  simp only [rank]
  omega

/-- With early data its keys are installed, and the first record is up. -/
theorem gives_afterHello_succ {suite : CipherSuite} {left : Nat}
    (hsome : config.earlyData = (left + 1 : Nat)) :
    Session.Gives (afterHello config) { suite } ⟨.early 0 left, rank_early_lt hsome⟩
      (helloView config suite) := by
  have hne : config.earlyData ≠ 0 := by omega
  rw [helloView, if_neg hne, if_neg hne, if_neg hne, afterHello]
  dsimp only
  rw [if_pos hne]
  refine Session.gives_bind (Session.gives_transcriptHash [config.hello]) ?_
  refine Session.gives_bind (Session.gives_deriveEarly demoPsk
    (KeyTree.length_digest_le suite [config.hello])) ?_
  refine Session.gives_bind (Session.gives_install .write .earlyData _) ?_
  split
  next hcount => rw [hsome] at hcount; cases hcount
  next left' hcount =>
    have hleft : left' = left := by omega
    subst hleft
    exact Session.gives_pure _

/-- A record of early data. -/
def earlyRecord (epoch : Epoch) (index : Nat) : Record :=
  epoch.stamp .applicationData (earlyPayload index)

/-- The data of an early record leaves room for a secret, as long as its
number is below four thousand million. -/
theorem room_earlyPayload (suite : CipherSuite) {index : Nat} (h : index < 4000000000) :
    suite.hash.size + (earlyPayload index).length ≤ maxRecordLength := by
  have hsize : suite.hash.size ≤ 48 := suite.size_hash.2
  have hdigits : (Nat.toDigits 10 index).length ≤ index + 1 :=
    Nat.toDigits_length 10 index (index + 1) (Nat.succ_pos index)
      (Nat.lt_of_succ_lt (Nat.lt_pow_self (by decide)))
  have hlength : (earlyPayload index).length = 6 + (Nat.toDigits 10 index).length := by
    rw [earlyPayload, asciiBytes, List.length_map, List.length_append]
    rfl
  rw [hlength, maxRecordLength]
  omega

/-- The rest of the early data is sent. -/
theorem goes_early {final : Bool} {index left : Nat}
    (hfits : ∀ i, i ≤ index + left → (earlyRecord view.write i).Fits) :
    Party.Goes (script config) final { stage := .early index left, view, unread, sent }
      { stage := .serverHello, view, unread
        sent := sent ++
          Record.stream ((List.range' index (left + 1)).map (earlyRecord view.write)) } := by
  induction left generalizing index sent with
  | zero =>
    have hone : Record.stream ((List.range' index (0 + 1)).map (earlyRecord view.write)) =
        (earlyRecord view.write index).bytes := by simp [Record.stream]
    rw [hone]
    exact Party.goes_send rfl (by simp) (hfits index (by omega)) (Session.gives_pure _)
  | succ left ih =>
    refine Party.Goes.trans
      (Party.goes_send rfl (by simp) (hfits index (by omega)) (Session.gives_pure _)) ?_
    rw [List.range'_succ, List.map_cons, Record.stream_cons, ← List.append_assoc]
    exact ih fun i hi => hfits i (by omega)

/-- The ClientHello and all early data are sent. -/
theorem goes_hello {final : Bool} {suite : CipherSuite} {count : Nat}
    (hcount : config.earlyData = count) (hhello : config.hello.length < 4294967296)
    (hfits : ∀ index < count, suite.hash.size + (earlyPayload index).length < 4294967296) :
    Party.Goes (script config) final { stage := .hello, view := { suite }, unread, sent }
      { stage := .serverHello, view := helloView config suite, unread
        sent := sent ++ (Epoch.stamp {} .handshake config.hello).bytes ++
          Record.stream ((List.range count).map (earlyRecord (helloView config suite).write)) } := by
  have hhello' : (Epoch.stamp {} .handshake config.hello).Fits :=
    Epoch.fits_stamp_default .handshake hhello
  cases count with
  | zero =>
    rw [List.range_zero, List.map_nil, Record.stream_nil, List.append_nil]
    exact Party.goes_send rfl (by simp) hhello' (gives_afterHello_zero hcount)
  | succ left =>
    refine Party.Goes.trans
      (Party.goes_send rfl (by simp) hhello' (gives_afterHello_succ hcount)) ?_
    have hrecord : ∀ index, index ≤ 0 + left →
        (earlyRecord (helloView config suite).write index).Fits := by
      intro index hindex
      have hne : config.earlyData ≠ 0 := by omega
      rw [helloView, if_neg hne]
      apply CipherSuite.fits_stamp
      rw [KeyTree.earlyTraffic, KeyTree.length_expand]
      exact hfits index (by omega)
    rw [List.range_eq_range']
    exact goes_early hrecord

/-- The early secret comes from the pre-shared key, if there is early data. -/
theorem helloView_earlyOr (config : Config) (suite : CipherSuite) (shared : Bytes) :
    (helloView config suite).earlyOr = (config.keys suite shared).earlySecret := by
  rw [Session.View.earlyOr, helloView, Keys.earlySecret, Config.keys]
  split <;> rfl

end Client

end RecordLayer
