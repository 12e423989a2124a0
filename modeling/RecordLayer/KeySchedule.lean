import RecordLayer.Act
import RecordLayer.CipherSuite
import RecordLayer.Hkdf

/-!
# The key schedule

The key schedule of TLS 1.3 (RFC 8446, section 7.1) for one connection.  The
early, the handshake and the master secret are extracted one from another,
and traffic secrets are expanded from each of them.

A derivation stores each secret as soon as it has it; if a later step of it
fails, the secrets before that step stay.
-/

namespace RecordLayer

/-- The traffic secrets of the two sides at one level. -/
structure TrafficSecrets where
  client : Bytes
  server : Bytes
deriving DecidableEq, Repr

/-- The labels of the key schedule. -/
inductive SecretLabel where
  | derived
  | clientEarly
  | clientHandshake
  | serverHandshake
  | clientApplication
  | serverApplication
  | finished
deriving DecidableEq, Repr

/-- The bytes of ASCII characters. -/
def asciiBytes (chars : List Char) : Bytes :=
  chars.map fun c => UInt8.ofNat c.toNat

/-- The text of a label. -/
def SecretLabel.bytes : SecretLabel → Bytes
  | .derived => asciiBytes ['d', 'e', 'r', 'i', 'v', 'e', 'd']
  | .clientEarly => asciiBytes ['c', ' ', 'e', ' ', 't', 'r', 'a', 'f', 'f', 'i', 'c']
  | .clientHandshake => asciiBytes ['c', ' ', 'h', 's', ' ', 't', 'r', 'a', 'f', 'f', 'i', 'c']
  | .serverHandshake => asciiBytes ['s', ' ', 'h', 's', ' ', 't', 'r', 'a', 'f', 'f', 'i', 'c']
  | .clientApplication => asciiBytes ['c', ' ', 'a', 'p', ' ', 't', 'r', 'a', 'f', 'f', 'i', 'c']
  | .serverApplication => asciiBytes ['s', ' ', 'a', 'p', ' ', 't', 'r', 'a', 'f', 'f', 'i', 'c']
  | .finished => asciiBytes ['f', 'i', 'n', 'i', 's', 'h', 'e', 'd']

/-- The secrets of one connection, as far as they have been derived. -/
structure KeySchedule where
  suite : CipherSuite
  early : Option Bytes := none
  handshake : Option Bytes := none
  master : Option Bytes := none
  earlyTraffic : Option TrafficSecrets := none
  handshakeTraffic : Option TrafficSecrets := none
  applicationTraffic : Option TrafficSecrets := none
deriving DecidableEq, Repr

namespace KeySchedule

/-! ## Computations -/

/-- A key schedule for the suite with a number. -/
def start (suite : Int) : Result KeySchedule := do
  return { suite := ← CipherSuite.ofInt suite }

/-- The hash function of the suite. -/
def hash (schedule : KeySchedule) : Hash := schedule.suite.hash

/-- As many zeros as a digest has bytes. -/
def zeros (schedule : KeySchedule) : Bytes := List.replicate schedule.hash.size 0

/-- The hash of handshake messages, one after another. -/
def transcriptHash (schedule : KeySchedule) (messages : List Bytes) : Bytes :=
  schedule.hash.digest messages.flatten

/-- A secret as long as a digest, expanded under a label and a context. -/
def expand (schedule : KeySchedule) (secret : Bytes) (label : SecretLabel) (context : Bytes) :
    Result Bytes :=
  Hkdf.expandLabel schedule.hash secret label.bytes context schedule.hash.size

/-- The salt for the extraction after a secret. -/
def derived (schedule : KeySchedule) (secret : Bytes) : Result Bytes :=
  schedule.expand secret .derived (schedule.transcriptHash [])

/-- The verify data of a Finished message. -/
def verifyData (schedule : KeySchedule) (trafficSecret transcriptHash : Bytes) : Result Bytes := do
  let key ← schedule.expand trafficSecret .finished []
  return schedule.hash.hmac key transcriptHash

/-- The traffic secrets of a level, if they have been derived.  At the initial
level they are empty. -/
def traffic? (schedule : KeySchedule) : Level → Option TrafficSecrets
  | .initial => some { client := [], server := [] }
  | .earlyData => schedule.earlyTraffic
  | .handshake => schedule.handshakeTraffic
  | .application => schedule.applicationTraffic

/-- The traffic secrets of the level with a code. -/
def trafficSecrets (schedule : KeySchedule) (level : Code) : Result TrafficSecrets :=
  match (Level.ofCode? level).bind schedule.traffic? with
  | some secrets => .ok secrets
  | none => .error (.noSecrets level)

/-! ## Derivations -/

/-- Extract and store the early secret.  An empty key stands for zeros. -/
def extractEarly (psk : Bytes) : Act KeySchedule Bytes := do
  let schedule ← Act.get
  let secret := Hkdf.extract schedule.hash [] (if psk.isEmpty then schedule.zeros else psk)
  Act.set { schedule with early := some secret }
  Act.note [.derived .early secret]
  return secret

/-- Derive the early secret and, given the hash of the ClientHello, the
client's traffic secret for early data. -/
def deriveEarly (psk : Option Bytes) (helloHash : Option Bytes) :
    Act KeySchedule (Option Bytes) := do
  let early ← extractEarly (psk.getD [])
  match helloHash with
  | none => return none
  | some helloHash =>
    let schedule ← Act.get
    let client ← Act.ofResult (schedule.expand early .clientEarly helloHash)
    Act.set { schedule with earlyTraffic := some { client, server := [] } }
    Act.note [.derived .clientEarlyTraffic client]
    return some client

/-- The early secret, extracted without a key if there is none yet. -/
def ensureEarly : Act KeySchedule Bytes := do
  match (← Act.get).early with
  | some early => return early
  | none => extractEarly []

/-- Derive the handshake secret and the handshake traffic secrets.  The result
is the traffic secrets and the handshake secret. -/
def deriveHandshake (sharedSecret transcriptHash : Bytes) :
    Act KeySchedule (TrafficSecrets × Bytes) := do
  let early ← ensureEarly
  let schedule ← Act.get
  let salt ← Act.ofResult (schedule.derived early)
  let secret := Hkdf.extract schedule.hash salt sharedSecret
  Act.set { schedule with handshake := some secret }
  let client ← Act.ofResult (schedule.expand secret .clientHandshake transcriptHash)
  let server ← Act.ofResult (schedule.expand secret .serverHandshake transcriptHash)
  Act.modify fun schedule => { schedule with handshakeTraffic := some { client, server } }
  Act.note [.derived .handshake secret, .derived .clientHandshakeTraffic client,
    .derived .serverHandshakeTraffic server]
  return ({ client, server }, secret)

/-- Derive the master secret and the application traffic secrets.  The result
is the traffic secrets and the master secret. -/
def deriveApplication (transcriptHash : Bytes) : Act KeySchedule (TrafficSecrets × Bytes) := do
  let schedule ← Act.get
  match schedule.handshake with
  | none => Act.fail .handshakeSecretMissing
  | some handshake =>
    let salt ← Act.ofResult (schedule.derived handshake)
    let secret := Hkdf.extract schedule.hash salt schedule.zeros
    Act.set { schedule with master := some secret }
    let client ← Act.ofResult (schedule.expand secret .clientApplication transcriptHash)
    let server ← Act.ofResult (schedule.expand secret .serverApplication transcriptHash)
    Act.modify fun schedule => { schedule with applicationTraffic := some { client, server } }
    Act.note [.derived .master secret, .derived .clientApplicationTraffic client,
      .derived .serverApplicationTraffic server]
    return ({ client, server }, secret)

/-! ## Calls -/

/-- Something that a caller asks of a key schedule. -/
inductive Call where
  | transcriptHash (messages : List Bytes)
  | early (psk helloHash : Option Bytes)
  | handshake (sharedSecret transcriptHash : Bytes)
  | application (transcriptHash : Bytes)
  | traffic (level : Code)
  | verifyData (trafficSecret transcriptHash : Bytes)
deriving DecidableEq, Repr

/-- What a call gives back. -/
inductive Answer where
  | bytes (bytes : Bytes)
  /-- The client's traffic secret for early data, if it was derived. -/
  | early (secret : Option Bytes)
  | handshake (traffic : TrafficSecrets) (secret : Bytes)
  | application (traffic : TrafficSecrets) (secret : Bytes)
  | traffic (traffic : TrafficSecrets)
deriving DecidableEq, Repr

/-- Do what a call asks for. -/
def perform : Call → Act KeySchedule Answer
  | .transcriptHash messages => do
    return .bytes ((← Act.get).transcriptHash messages)
  | .early psk helloHash => do
    return .early (← deriveEarly psk helloHash)
  | .handshake sharedSecret transcriptHash => do
    let (traffic, secret) ← deriveHandshake sharedSecret transcriptHash
    return .handshake traffic secret
  | .application transcriptHash => do
    let (traffic, secret) ← deriveApplication transcriptHash
    return .application traffic secret
  | .traffic level => do
    return .traffic (← Act.ofResult ((← Act.get).trafficSecrets level))
  | .verifyData trafficSecret transcriptHash => do
    return .bytes (← Act.ofResult ((← Act.get).verifyData trafficSecret transcriptHash))

end KeySchedule

end RecordLayer
