import RecordLayer.Exchange.Content
import RecordLayer.Exchange.Script
import RecordLayer.KeyAgreement

/-!
# The server's script

The server reads the ClientHello and sends its flight up to the Finished
message.  Then it reads the early data, or sets the transport to skip it if
it was rejected, checks the client's Finished message, and echoes one more
record.

Neither the records of early data nor the record that is echoed have to be of
a certain type.
-/

namespace RecordLayer.Server

/-- What a server is given. -/
structure Config where
  agreement : KeyAgreement
  privateKey : Bytes
  /-- The random of the ServerHello. -/
  random : Bytes
  /-- How many records of early data are expected. -/
  earlyData : Int
  rejectEarlyData : Bool

/-- Whether the server reads early data. -/
def Config.acceptsEarlyData (config : Config) : Bool :=
  0 < config.earlyData && !config.rejectEarlyData

/-- What a server reports in the end. -/
structure Summary where
  earlyDataReceived : Nat
  earlyDataSkipped : Nat
deriving DecidableEq, Repr

/-- The secrets of both levels above the initial one that a server uses. -/
structure Secrets where
  handshake : TrafficSecrets
  application : TrafficSecrets
deriving DecidableEq, Repr

/-- Where a server stands. -/
inductive Stage where
  /-- The ClientHello is awaited. -/
  | clientHello
  /-- The ServerHello is to be sent. -/
  | serverHello (clientHello : Bytes) (share : Option Extension) (message : Bytes)
  /-- A message of the flight is to be sent, and `rest` after it. -/
  | flight (secrets : TrafficSecrets) (transcript : List Bytes) (message : Bytes)
      (rest : List Bytes)
  /-- The Finished message is to be sent. -/
  | finished (secrets : TrafficSecrets) (transcript : List Bytes) (message : Bytes)
  /-- A record of early data is awaited, and `left` more after it. -/
  | early (secrets : Secrets) (transcript : List Bytes) (left : Nat)
  /-- The client's Finished message is awaited. -/
  | clientFinished (secrets : Secrets) (transcript : List Bytes)
  /-- A record to echo is awaited. -/
  | request (skipped : Nat)
  /-- The echo is to be sent. -/
  | reply (skipped : Nat) (data : Bytes)
  | done (skipped : Nat)
deriving DecidableEq, Repr

/-- A bound on the records that are still to be sent. -/
def rank : Stage → Nat
  | .clientHello => 6
  | .serverHello .. => 6
  | .flight _ _ _ rest => rest.length + 3
  | .finished .. => 2
  | .early .. => 1
  | .clientFinished .. => 1
  | .request _ => 1
  | .reply .. => 1
  | .done _ => 0

/-- On the ClientHello: the ServerHello. -/
def onClientHello (config : Config) (delivery : Delivery) :
    Act Session { s : Stage // rank s ≤ rank .clientHello } := do
  let message ← Act.ofResult delivery.message
  let share ← Act.ofResult message.keyShare?
  let suite := (← Act.get).schedule.suite
  let hello ← Act.ofResult (Message.serverHello (config.agreement.publicKey config.privateKey)
    suite.code config.random)
  return ⟨.serverHello delivery.data share hello, by simp [rank]⟩

/-- After the ServerHello: the shared secret, the handshake keys and the
messages of the flight. -/
def afterServerHello (config : Config) (clientHello : Bytes) (share : Option Extension)
    (message : Bytes) :
    Act Session { s : Stage // rank s < rank (.serverHello clientHello share message) } := do
  let key ← Act.ofResult (Extension.key share)
  let shared ← Act.ofResult (config.agreement.exchange config.privateKey key)
  if config.earlyData ≠ 0 then
    let helloHash ← Session.transcriptHash [clientHello]
    discard (Session.onSchedule (KeySchedule.deriveEarly (some demoPsk) (some helloHash)))
  let transcript := [clientHello, message]
  let hash ← Session.transcriptHash transcript
  let (secrets, _) ← Session.onSchedule (KeySchedule.deriveHandshake shared hash)
  Session.install .write .handshake secrets.server
  let verify ← Act.ofResult (Message.certificateVerify Message.ed25519 (List.replicate 64 0))
  return ⟨.flight secrets transcript (Message.encryptedExtensions config.acceptsEarlyData)
    [Message.certificate scriptedCertificate, verify], by simp [rank]⟩

/-- After a message of the flight: the next one, or the Finished message. -/
def afterFlight (secrets : TrafficSecrets) (transcript : List Bytes) (message : Bytes) :
    (rest : List Bytes) →
    Act Session { s : Stage // rank s < rank (.flight secrets transcript message rest) }
  | next :: rest =>
    return ⟨.flight secrets (transcript ++ [message]) next rest, by simp [rank]⟩
  | [] => do
    let transcript := transcript ++ [message]
    let verifyData ← Session.verifyData secrets.server transcript
    return ⟨.finished secrets transcript (Message.finished verifyData), by simp [rank]⟩

/-- Wait for the client's Finished message under the client's handshake keys. -/
def awaitFinished (secrets : Secrets) (transcript : List Bytes) :
    Act Session { s : Stage // rank s ≤ 1 } := do
  Session.install .read .handshake secrets.handshake.client
  return ⟨.clientFinished secrets transcript, by simp [rank]⟩

/-- After the Finished message: the application keys, and early data, which
is read, skipped or not expected. -/
def afterFinished (config : Config) (secrets : TrafficSecrets) (transcript : List Bytes)
    (message : Bytes) :
    Act Session { s : Stage // rank s < rank (.finished secrets transcript message) } := do
  let transcript' := transcript ++ [message]
  let hash ← Session.transcriptHash transcript'
  let (application, _) ← Session.onSchedule (KeySchedule.deriveApplication hash)
  Session.install .write .application application.server
  let secrets' : Secrets := { handshake := secrets, application }
  match config.acceptsEarlyData, config.earlyData.toNat with
  | true, left + 1 =>
    let early ← Act.ofResult
      ((← Act.get).schedule.trafficSecrets (.number Level.earlyData.code))
    Session.install .read .earlyData early.client
    return ⟨.early secrets' transcript' left, Nat.one_lt_two⟩
  | _, _ =>
    if config.earlyData ≠ 0 then
      Session.onEndpoint (Endpoint.onTransport (Act.modify fun transport =>
        { transport with skipping := true }))
    let ⟨stage, h⟩ ← awaitFinished secrets' transcript'
    return ⟨stage, Nat.lt_succ_of_le h⟩

/-- On a record of early data, of which `left` more are to come. -/
def onEarly (secrets : Secrets) (transcript : List Bytes) (left : Nat) :
    Act Session { s : Stage // rank s ≤ rank (.early secrets transcript left) } :=
  match left with
  | left + 1 => return ⟨.early secrets transcript left, by simp [rank]⟩
  | 0 => awaitFinished secrets transcript

/-- On the client's Finished message: it is checked, and the client's
application keys are installed. -/
def onClientFinished (secrets : Secrets) (transcript : List Bytes) (delivery : Delivery) :
    Act Session { s : Stage // rank s ≤ rank (.clientFinished secrets transcript) } := do
  let message ← Act.ofResult delivery.message
  match message.content with
  | .finished verifyData =>
    let expected ← Session.verifyData secrets.handshake.client transcript
    if verifyData ≠ expected then
      Act.fail (.finishedMismatch .client)
    else
      let skipped := (← Act.get).transport.skipped
      Session.install .read .application secrets.application.client
      return ⟨.request skipped, by simp [rank]⟩
  | _ => Act.fail (.unexpectedMessage message.name)

/-- The server's script. -/
def script (config : Config) : Script Stage Summary where
  rank := rank
  closesOnFailure := false
  ask
    | .clientHello => .receive (onClientHello config)
    | .serverHello clientHello share message =>
      .send .handshake message (afterServerHello config clientHello share message)
    | .flight secrets transcript message rest =>
      .send .handshake message (afterFlight secrets transcript message rest)
    | .finished secrets transcript message =>
      .send .handshake message (afterFinished config secrets transcript message)
    | .early secrets transcript left => .receive fun _ => onEarly secrets transcript left
    | .clientFinished secrets transcript => .receive (onClientFinished secrets transcript)
    | .request skipped =>
      .receive fun delivery => return ⟨.reply skipped (delivery.data ++ pongSuffix), by simp [rank]⟩
    | .reply skipped data => .send .applicationData data (return ⟨.done skipped, Nat.zero_lt_one⟩)
    | .done skipped => .finish {
        earlyDataReceived := if config.acceptsEarlyData then config.earlyData.toNat else 0
        earlyDataSkipped := skipped }

/-- A server before its first operation.  Its suite has to be supported. -/
def start (transport : Transport) (log : KeyLog) (suite : Int) :
    Result (Party Stage Summary) := do
  let schedule ← KeySchedule.start suite
  return { status := .running .clientHello {}, session := { transport, log, schedule } }

end RecordLayer.Server
