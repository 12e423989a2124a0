import Mathlib.Tactic.Common
import RecordLayer.Proofs.ClientAcceptance
import RecordLayer.Proofs.Flights

/-!
# Conversations

What a scripted server and its client send each other follows from the keys
that they share, the two hello messages and whether early data is accepted
(`Conversation`).  All records of a conversation but the hello messages and
the early data are short.
-/

namespace RecordLayer

/-! ## What is sent -/

/-- What all that two sides send each other follows from. -/
structure Conversation where
  keys : Keys
  clientHello : Bytes
  serverHello : Bytes
  /-- Whether early data was accepted. -/
  accepted : Bool

namespace Conversation

variable (talk : Conversation)

/-- The hello messages. -/
def hellos : List Bytes := [talk.clientHello, talk.serverHello]

/-- The traffic secrets of the handshake. -/
def secrets : TrafficSecrets := talk.keys.handshake talk.hellos

/-- The messages before the server's Finished message. -/
def messages : List Bytes := talk.hellos ++ Message.scriptedFlight talk.accepted

def serverFinished : Bytes :=
  Message.finished (talk.keys.verifyData talk.secrets.server talk.messages)

/-- The messages before the client's Finished message. -/
def transcript : List Bytes := talk.messages ++ [talk.serverFinished]

/-- The traffic secrets of application data. -/
def application : TrafficSecrets := talk.keys.application talk.transcript

def clientFinished : Bytes :=
  Message.finished (talk.keys.verifyData talk.secrets.client talk.transcript)

/-- A handshake message of the server after its hello. -/
def serverRecord (data : Bytes) : Record :=
  (talk.keys.suite.epoch .handshake talk.secrets.server).stamp .handshake data

/-- The records of the server up to its Finished message. -/
def serverFlight : List Record :=
  Epoch.stamp {} .handshake talk.serverHello ::
    (Message.scriptedFlight talk.accepted ++ [talk.serverFinished]).map talk.serverRecord

/-- The client's Finished message and its ping. -/
def clientFlight : List Record :=
  [(talk.keys.suite.epoch .handshake talk.secrets.client).stamp .handshake talk.clientFinished,
    (talk.keys.suite.epoch .application talk.application.client).stamp .applicationData pingPayload]

/-- The client's records of early data. -/
def earlyRecords (count : Nat) : List Record :=
  (List.range count).map (Client.earlyRecord (Client.earlyEpoch talk.keys.suite talk.clientHello))

/-- The records of early data that the server drops. -/
def droppedRecords (count : Nat) : List Record :=
  if talk.accepted then [] else talk.earlyRecords count

/-- The server's answer to some data. -/
def reply (data : Bytes) : Record :=
  (talk.keys.suite.epoch .application talk.application.server).stamp .applicationData
    (data ++ pongSuffix)

/-- The server's answer to the ping. -/
def pong : Record :=
  (talk.keys.suite.epoch .application talk.application.server).stamp .applicationData
    (pingPayload ++ pongSuffix)

theorem reply_pingPayload : talk.reply pingPayload = talk.pong := rfl

/-- The server's flight as the client knows it. -/
def flight : Client.Flight where
  keys := talk.keys
  clientHello := talk.clientHello
  serverHello := talk.serverHello
  messages := Message.scriptedFlight talk.accepted
  finished := talk.serverFinished

/-! ## Sizes -/

/-- A short record of a traffic secret fits. -/
theorem fits_of_length_le {suite : CipherSuite} (level : Level) {secret data : Bytes}
    (type : RecordType) (hsecret : secret.length = suite.hash.size) (hdata : data.length ≤ 100) :
    ((suite.epoch level secret).stamp type data).Fits := by
  apply CipherSuite.fits_stamp
  have := suite.size_hash.2
  omega

theorem length_finished_le (keys : Keys) (secret : Bytes) (messages : List Bytes) :
    (Message.finished (keys.verifyData secret messages)).length ≤ 100 := by
  rw [Message.length_finished, Keys.verifyData, KeyTree.length_verifyData]
  have := keys.suite.size_hash.2
  omega

/-- A Finished message is read back as such. -/
theorem opens_finished (keys : Keys) (secret : Bytes) (messages : List Bytes) :
    ∃ message, Message.Opens (Message.finished (keys.verifyData secret messages)) message ∧
      message.type = Message.finishedType ∧
      message.content = .finished (keys.verifyData secret messages) := by
  refine ⟨_, Message.opens_finished ?_, rfl, rfl⟩
  rw [Keys.verifyData, KeyTree.length_verifyData]
  have := keys.suite.size_hash.2
  omega

theorem fits_serverRecord {data : Bytes}
    (h : data ∈ Message.scriptedFlight talk.accepted ++ [talk.serverFinished]) :
    (talk.serverRecord data).Fits := by
  refine fits_of_length_le .handshake .handshake (KeyTree.length_expand ..) ?_
  rcases List.mem_append.1 h with h | h
  · exact (Message.opens_of_mem_scriptedFlight h).1
  · obtain rfl := List.mem_singleton.1 h
    exact length_finished_le ..

theorem fits_serverFinished : (talk.serverRecord talk.serverFinished).Fits :=
  talk.fits_serverRecord (List.mem_append_right _ List.mem_cons_self)

theorem fits_of_mem_clientFlight {record : Record} (h : record ∈ talk.clientFlight) :
    record.Fits := by
  simp only [clientFlight, List.mem_cons, List.not_mem_nil, or_false] at h
  rcases h with rfl | rfl
  · exact fits_of_length_le .handshake .handshake (KeyTree.length_expand ..)
      (length_finished_le ..)
  · exact fits_of_length_le .application .applicationData (KeyTree.length_expand ..) (by decide)

theorem fits_of_mem_earlyRecords {count : Nat}
    (hearly : ∀ index < count,
      talk.keys.suite.hash.size + (earlyPayload index).length ≤ maxRecordLength)
    {record : Record} (h : record ∈ talk.earlyRecords count) : record.Fits ∧ record.level = 1 := by
  obtain ⟨index, hindex, rfl⟩ := List.mem_map.1 h
  refine ⟨CipherSuite.fits_stamp .applicationData ?_, rfl⟩
  have hsize := hearly index (List.mem_range.1 hindex)
  rw [KeyTree.earlyTraffic, KeyTree.length_expand]
  exact Nat.lt_succ_of_le hsize

theorem fits_pong : talk.pong.Fits :=
  fits_of_length_le .application .applicationData (KeyTree.length_expand ..) (by decide)

end Conversation

end RecordLayer
