import RecordLayer.Exchange.Content
import RecordLayer.Exchange.Script
import RecordLayer.KeyAgreement

/-!
# The client's script

The client sends its ClientHello and its early data, reads the server's
flight up to the Finished message, answers with its own Finished and a ping,
and waits for one more record.

Only the Finished message of the server is checked: its verify data has to
match the handshake messages before it.  The record that ends the script may
be of any type.
-/

namespace RecordLayer.Client

/-- What a client is given. -/
structure Config where
  agreement : KeyAgreement
  privateKey : Bytes
  hello : Bytes
  /-- How many records of early data are sent.  A number below zero sends
  none, but still installs the keys for early data. -/
  earlyData : Int

/-- What a client reports in the end. -/
structure Summary where
  earlyDataSent : Nat
  applicationData : Bytes
deriving DecidableEq, Repr

/-- Where a client stands. -/
inductive Stage where
  /-- The ClientHello is to be sent. -/
  | hello
  /-- The early record `index` is to be sent, and `left` more after it. -/
  | early (index left : Nat)
  /-- The ServerHello is awaited. -/
  | serverHello
  /-- The rest of the server's flight is awaited. -/
  | flight (secrets : TrafficSecrets) (transcript : List Bytes)
  /-- The Finished message is to be sent. -/
  | finished (application : TrafficSecrets) (message : Bytes)
  /-- The ping is to be sent. -/
  | ping
  /-- The answer to the ping is awaited. -/
  | pong
  | done (data : Bytes)
deriving DecidableEq, Repr

/-- A bound on the records that are still to be sent. -/
def rank (config : Config) : Stage → Nat
  | .hello => config.earlyData.toNat + 4
  | .early _ left => left + 4
  | .serverHello => 3
  | .flight .. => 3
  | .finished .. => 2
  | .ping => 1
  | .pong => 0
  | .done _ => 0

/-- After the ClientHello: the keys for early data, if there is to be any. -/
def afterHello (config : Config) : Act Session { s : Stage // rank config s < rank config .hello } := do
  if config.earlyData ≠ 0 then
    let helloHash ← Session.transcriptHash [config.hello]
    let secret ← Session.onSchedule (KeySchedule.deriveEarly (some demoPsk) (some helloHash))
    Session.install .write .earlyData (secret.getD [])
  match h : config.earlyData.toNat with
  | 0 => return ⟨.serverHello, by simp [rank]⟩
  | left + 1 => return ⟨.early 0 left, by simp [rank, h]⟩

/-- On the ServerHello: the shared secret and the handshake keys. -/
def onServerHello (config : Config) (delivery : Delivery) :
    Act Session { s : Stage // rank config s ≤ rank config .serverHello } := do
  let message ← Act.ofResult delivery.message
  let share ← Act.ofResult message.keyShare?
  let key ← Act.ofResult (Extension.key share)
  let shared ← Act.ofResult (config.agreement.exchange config.privateKey key)
  let transcript := [config.hello, delivery.data]
  let hash ← Session.transcriptHash transcript
  let (secrets, _) ← Session.onSchedule (KeySchedule.deriveHandshake shared hash)
  Session.install .read .handshake secrets.server
  return ⟨.flight secrets transcript, by simp [rank]⟩

/-- On a message of the server's flight: the Finished message is checked and
answered, and every other message is only remembered. -/
def onFlight (config : Config) (secrets : TrafficSecrets) (transcript : List Bytes)
    (delivery : Delivery) :
    Act Session { s : Stage // rank config s ≤ rank config (.flight secrets transcript) } := do
  let message ← Act.ofResult delivery.message
  let longer := transcript ++ [delivery.data]
  match message.content with
  | .finished verifyData =>
    let expected ← Session.verifyData secrets.server transcript
    if verifyData ≠ expected then
      Act.fail (.finishedMismatch .server)
    else
      let hash ← Session.transcriptHash longer
      let (application, _) ← Session.onSchedule (KeySchedule.deriveApplication hash)
      Session.install .write .handshake secrets.client
      let verifyData ← Session.verifyData secrets.client longer
      return ⟨.finished application (Message.finished verifyData), by simp [rank]⟩
  | _ => return ⟨.flight secrets longer, by simp [rank]⟩

/-- After the Finished message: the application keys. -/
def afterFinished (config : Config) (application : TrafficSecrets) (message : Bytes) :
    Act Session { s : Stage // rank config s < rank config (.finished application message) } := do
  Session.install .write .application application.client
  Session.install .read .application application.server
  return ⟨.ping, Nat.one_lt_two⟩

/-- The client's script. -/
def script (config : Config) : Script Stage Summary where
  rank := rank config
  closesOnFailure := true
  ask
    | .hello => .send .handshake config.hello (afterHello config)
    | .early index 0 =>
      .send .applicationData (earlyPayload index) (return ⟨.serverHello, by simp [rank]⟩)
    | .early index (left + 1) =>
      .send .applicationData (earlyPayload index) (return ⟨.early (index + 1) left, by simp [rank]⟩)
    | .serverHello => .receive (onServerHello config)
    | .flight secrets transcript => .receive (onFlight config secrets transcript)
    | .finished application message =>
      .send .handshake message (afterFinished config application message)
    | .ping => .send .applicationData pingPayload (return ⟨.pong, Nat.zero_lt_one⟩)
    | .pong => .receive fun delivery => return ⟨.done delivery.data, by simp [rank]⟩
    | .done data =>
      .finish { earlyDataSent := config.earlyData.toNat, applicationData := data }

/-- A client before its first operation.  Its suite has to be supported. -/
def start (transport : Transport) (log : KeyLog) (suite : Int) :
    Result (Party Stage Summary) := do
  let schedule ← KeySchedule.start suite
  return { status := .running .hello {}, session := { transport, log, schedule } }

end RecordLayer.Client
