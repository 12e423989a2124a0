import Mathlib.Tactic.Common
import RecordLayer.Proofs.Expansion

/-!
# The tree of secrets

The secrets of RFC 8446, section 7.1, as functions of what goes into them:
extractions down the stem (`early`, `handshake`, `master`) and expansions to
traffic secrets from each of them, over the hash function of a suite.

`KeySchedule.expand_eq` says that an expansion never fails under a context of
at most 255 bytes.  From it each derivation of a key schedule is found to give
and to store the secrets of the tree, without any other condition.
-/

namespace RecordLayer

/-! ## Secrets as functions -/

namespace KeyTree

/-- The information of an expansion to the size of a digest: that size, the
label and the context, both behind their own size. -/
def info (suite : CipherSuite) (label : SecretLabel) (context : Bytes) : Bytes :=
  let name := Hkdf.labelStart ++ label.bytes
  Bytes.bigEndian 2 suite.hash.size ++
    ((Bytes.bigEndian 1 name.length ++ name) ++ (Bytes.bigEndian 1 context.length ++ context))

/-- A secret expanded under a label and a context. -/
def expand (suite : CipherSuite) (secret : Bytes) (label : SecretLabel) (context : Bytes) : Bytes :=
  Hkdf.expand suite.hash secret (info suite label context) suite.hash.size

/-- The hash of handshake messages, one after another. -/
def digest (suite : CipherSuite) (messages : List Bytes) : Bytes :=
  suite.hash.digest messages.flatten

/-- As many zeros as a digest has bytes. -/
def zeros (suite : CipherSuite) : Bytes := List.replicate suite.hash.size 0

/-- The early secret.  An empty key stands for zeros. -/
def early (suite : CipherSuite) (psk : Bytes) : Bytes :=
  Hkdf.extract suite.hash [] (if psk.isEmpty then zeros suite else psk)

/-- The salt for the extraction after a secret. -/
def salt (suite : CipherSuite) (secret : Bytes) : Bytes :=
  expand suite secret .derived (digest suite [])

/-- The handshake secret under an early secret. -/
def handshake (suite : CipherSuite) (early shared : Bytes) : Bytes :=
  Hkdf.extract suite.hash (salt suite early) shared

/-- The master secret under a handshake secret. -/
def master (suite : CipherSuite) (handshake : Bytes) : Bytes :=
  Hkdf.extract suite.hash (salt suite handshake) (zeros suite)

/-- The client's traffic secret for early data. -/
def earlyTraffic (suite : CipherSuite) (early helloHash : Bytes) : Bytes :=
  expand suite early .clientEarly helloHash

/-- The traffic secrets of the handshake. -/
def handshakeTraffic (suite : CipherSuite) (handshake transcriptHash : Bytes) : TrafficSecrets where
  client := expand suite handshake .clientHandshake transcriptHash
  server := expand suite handshake .serverHandshake transcriptHash

/-- The traffic secrets of application data. -/
def applicationTraffic (suite : CipherSuite) (master transcriptHash : Bytes) : TrafficSecrets where
  client := expand suite master .clientApplication transcriptHash
  server := expand suite master .serverApplication transcriptHash

/-- The verify data of a Finished message of the owner of a traffic secret. -/
def verifyData (suite : CipherSuite) (trafficSecret transcriptHash : Bytes) : Bytes :=
  suite.hash.hmac (expand suite trafficSecret .finished []) transcriptHash

theorem length_digest_le (suite : CipherSuite) (messages : List Bytes) :
    (digest suite messages).length ≤ 255 := by
  have hsize : suite.hash.size ≤ 48 := suite.size_hash.2
  rw [digest, Hash.length_digest]
  omega

@[simp] theorem length_expand (suite : CipherSuite) (secret : Bytes) (label : SecretLabel)
    (context : Bytes) : (expand suite secret label context).length = suite.hash.size :=
  Hkdf.length_expand secret _ _ suite.size_hash.1

@[simp] theorem length_verifyData (suite : CipherSuite) (trafficSecret transcriptHash : Bytes) :
    (verifyData suite trafficSecret transcriptHash).length = suite.hash.size :=
  Hash.length_hmac ..

end KeyTree

/-! ## The secrets of a connection -/

/-- What all secrets of a connection come from, apart from its messages. -/
structure Keys where
  suite : CipherSuite
  /-- The pre-shared key, empty if there is none. -/
  psk : Bytes
  shared : Bytes

namespace Keys

def earlySecret (keys : Keys) : Bytes := KeyTree.early keys.suite keys.psk

def handshakeSecret (keys : Keys) : Bytes :=
  KeyTree.handshake keys.suite keys.earlySecret keys.shared

/-- The traffic secrets of the handshake, from the messages up to the ServerHello. -/
def handshake (keys : Keys) (messages : List Bytes) : TrafficSecrets :=
  KeyTree.handshakeTraffic keys.suite keys.handshakeSecret (KeyTree.digest keys.suite messages)

/-- The traffic secrets of application data, from the messages up to the
server's Finished. -/
def application (keys : Keys) (messages : List Bytes) : TrafficSecrets :=
  KeyTree.applicationTraffic keys.suite (KeyTree.master keys.suite keys.handshakeSecret)
    (KeyTree.digest keys.suite messages)

/-- The verify data of the owner of a traffic secret, over the messages so far. -/
def verifyData (keys : Keys) (trafficSecret : Bytes) (messages : List Bytes) : Bytes :=
  KeyTree.verifyData keys.suite trafficSecret (KeyTree.digest keys.suite messages)

end Keys

/-! ## The key schedule derives the tree -/

namespace KeySchedule

/-- A key schedule is started under the code of a suite. -/
theorem start_code (suite : CipherSuite) : start suite.code = .ok { suite } := by
  rw [start, CipherSuite.ofInt, CipherSuite.ofInt?_code]
  rfl

/-- Every label of the key schedule fits, with a context that does. -/
theorem fits_label (suite : CipherSuite) (label : SecretLabel) {context : Bytes}
    (h : context.length ≤ 255) : Hkdf.Fits suite.hash.size label.bytes context := by
  have hsize : suite.hash.size ≤ 48 := suite.size_hash.2
  exact ⟨by omega, by cases label <;> decide, h⟩

/-- An expansion under a short context succeeds. -/
theorem expand_eq (schedule : KeySchedule) (secret : Bytes) (label : SecretLabel)
    {context : Bytes} (h : context.length ≤ 255) :
    schedule.expand secret label context =
      .ok (KeyTree.expand schedule.suite secret label context) := by
  have hmost : ¬Hkdf.maxOutput schedule.suite.hash < schedule.suite.hash.size := by
    rw [Hkdf.maxOutput]
    omega
  rw [expand, hash, Hkdf.expandLabel_of_fits _ _ (fits_label schedule.suite label h),
    Int.toNat_natCast, if_neg hmost]
  rfl

theorem transcriptHash_eq (schedule : KeySchedule) (messages : List Bytes) :
    schedule.transcriptHash messages = KeyTree.digest schedule.suite messages := rfl

theorem derived_eq (schedule : KeySchedule) (secret : Bytes) :
    schedule.derived secret = .ok (KeyTree.salt schedule.suite secret) :=
  schedule.expand_eq secret .derived (KeyTree.length_digest_le schedule.suite [])

theorem verifyData_eq (schedule : KeySchedule) (trafficSecret transcriptHash : Bytes) :
    schedule.verifyData trafficSecret transcriptHash =
      .ok (KeyTree.verifyData schedule.suite trafficSecret transcriptHash) := by
  rw [verifyData, schedule.expand_eq trafficSecret .finished (by decide)]
  rfl

theorem extractEarly_apply (psk : Bytes) (schedule : KeySchedule) :
    extractEarly psk schedule =
      { result := .ok (KeyTree.early schedule.suite psk)
        state := { schedule with early := some (KeyTree.early schedule.suite psk) }
        notes := [.derived .early (KeyTree.early schedule.suite psk)] } := rfl

/-- The early derivation for a ClientHello. -/
theorem deriveEarly_apply (psk : Option Bytes) {helloHash : Bytes} (h : helloHash.length ≤ 255)
    (schedule : KeySchedule) :
    let early := KeyTree.early schedule.suite (psk.getD [])
    let client := KeyTree.earlyTraffic schedule.suite early helloHash
    deriveEarly psk (some helloHash) schedule =
      { result := .ok (some client)
        state := { schedule with
          early := some early, earlyTraffic := some { client, server := [] } }
        notes := [.derived .early early, .derived .clientEarlyTraffic client] } := by
  have hextract := extractEarly_apply (psk.getD []) schedule
  dsimp only
  generalize KeyTree.early schedule.suite (psk.getD []) = early at hextract ⊢
  have hclient : expand { schedule with early := some early } early .clientEarly helloHash =
      .ok (KeyTree.earlyTraffic schedule.suite early helloHash) := expand_eq _ early .clientEarly h
  rw [deriveEarly, Act.bind_apply_of_ok hextract]
  dsimp only
  rw [Act.get_bind, Act.ofResult_bind hclient, Act.set_bind, Act.note_bind]
  rfl

/-- The early secret that a key schedule goes on from. -/
def earlyOr (schedule : KeySchedule) : Bytes :=
  schedule.early.getD (KeyTree.early schedule.suite [])

theorem ensureEarly_apply (schedule : KeySchedule) :
    ensureEarly schedule =
      { result := .ok schedule.earlyOr
        state := { schedule with early := some schedule.earlyOr }
        notes := if schedule.early = none then [.derived .early schedule.earlyOr] else [] } := by
  obtain ⟨suite, early, _⟩ := schedule
  cases early <;> rfl

/-- The derivation of the handshake secrets. -/
theorem deriveHandshake_apply (shared : Bytes) {transcriptHash : Bytes}
    (h : transcriptHash.length ≤ 255) (schedule : KeySchedule) :
    let secret := KeyTree.handshake schedule.suite schedule.earlyOr shared
    let traffic := KeyTree.handshakeTraffic schedule.suite secret transcriptHash
    deriveHandshake shared transcriptHash schedule =
      { result := .ok (traffic, secret)
        state := { schedule with
          early := some schedule.earlyOr, handshake := some secret
          handshakeTraffic := some traffic }
        notes := (if schedule.early = none then [.derived .early schedule.earlyOr] else []) ++
          [.derived .handshake secret, .derived .clientHandshakeTraffic traffic.client,
            .derived .serverHandshakeTraffic traffic.server] } := by
  have hsalt : derived { schedule with early := some schedule.earlyOr } schedule.earlyOr =
      .ok (KeyTree.salt schedule.suite schedule.earlyOr) := derived_eq _ _
  have hsecret : Hkdf.extract (hash { schedule with early := some schedule.earlyOr })
      (KeyTree.salt schedule.suite schedule.earlyOr) shared =
        KeyTree.handshake schedule.suite schedule.earlyOr shared := rfl
  dsimp only
  generalize KeyTree.handshake schedule.suite schedule.earlyOr shared = secret at hsecret ⊢
  have hclient : expand { schedule with early := some schedule.earlyOr }
      secret .clientHandshake transcriptHash =
        .ok (KeyTree.handshakeTraffic schedule.suite secret transcriptHash).client :=
    expand_eq _ _ _ h
  have hserver : expand { schedule with early := some schedule.earlyOr }
      secret .serverHandshake transcriptHash =
        .ok (KeyTree.handshakeTraffic schedule.suite secret transcriptHash).server :=
    expand_eq _ _ _ h
  rw [deriveHandshake, Act.bind_apply_of_ok (ensureEarly_apply schedule), Act.get_bind,
    Act.ofResult_bind hsalt]
  dsimp only
  rw [hsecret, Act.set_bind, Act.ofResult_bind hclient, Act.ofResult_bind hserver,
    Act.modify_bind, Act.note_bind]
  rfl

/-- The derivation of the application secrets, which needs the handshake secret. -/
theorem deriveApplication_apply {handshake transcriptHash : Bytes}
    (h : transcriptHash.length ≤ 255) {schedule : KeySchedule}
    (hhandshake : schedule.handshake = some handshake) :
    let secret := KeyTree.master schedule.suite handshake
    let traffic := KeyTree.applicationTraffic schedule.suite secret transcriptHash
    deriveApplication transcriptHash schedule =
      { result := .ok (traffic, secret)
        state := { schedule with master := some secret, applicationTraffic := some traffic }
        notes := [.derived .master secret, .derived .clientApplicationTraffic traffic.client,
          .derived .serverApplicationTraffic traffic.server] } := by
  have hsalt := derived_eq schedule handshake
  have hsecret : Hkdf.extract schedule.hash (KeyTree.salt schedule.suite handshake)
      schedule.zeros = KeyTree.master schedule.suite handshake := rfl
  dsimp only
  generalize KeyTree.master schedule.suite handshake = secret at hsecret ⊢
  have hclient : schedule.expand secret .clientApplication transcriptHash =
      .ok (KeyTree.applicationTraffic schedule.suite secret transcriptHash).client :=
    expand_eq _ _ _ h
  have hserver : schedule.expand secret .serverApplication transcriptHash =
      .ok (KeyTree.applicationTraffic schedule.suite secret transcriptHash).server :=
    expand_eq _ _ _ h
  rw [deriveApplication, Act.get_bind, hhandshake]
  dsimp only
  rw [Act.ofResult_bind hsalt, hsecret, Act.set_bind, Act.ofResult_bind hclient, Act.ofResult_bind hserver,
    Act.modify_bind, Act.note_bind]
  rfl

end KeySchedule

end RecordLayer
