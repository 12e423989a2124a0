import RecordLayer.CipherSuite
import RecordLayer.Handshake.Extension
import RecordLayer.Note

/-!
# Handshake messages

A handshake message is a type byte, the size of the body in three bytes, and
the body.  Of the size only the low 24 bits are written; a size that needs more
than four bytes is refused.

`Message.readAll` reads the complete messages at the front of a byte string.
Only a hello message can fail to be read; `Reading` keeps the messages before
it.
-/

namespace RecordLayer

/-- What is understood of the body of a handshake message.  A hello message
may end before its extensions. -/
inductive Message.Content where
  | plain
  | clientHello (random : Bytes) (suites : List Nat) (extensions : Option (List Extension))
  | serverHello (random : Bytes) (suite : Nat) (extensions : Option (List Extension))
  | encryptedExtensions (extensions : List Extension)
  | finished (verifyData : Bytes)
deriving DecidableEq, Repr

/-- A handshake message as it was received. -/
structure Message where
  type : Nat
  /-- The size of the body. -/
  size : Nat
  content : Message.Content
deriving DecidableEq, Repr

namespace Message

/-! ## Types -/

/-- The type of a ClientHello. -/
def clientHelloType : Nat := 1

/-- The type of a ServerHello. -/
def serverHelloType : Nat := 2

/-- The type of EncryptedExtensions. -/
def encryptedExtensionsType : Nat := 8

/-- The type of a Certificate. -/
def certificateType : Nat := 11

/-- The type of a CertificateVerify. -/
def certificateVerifyType : Nat := 15

/-- The type of a Finished. -/
def finishedType : Nat := 20

/-- The name of a message type. -/
def typeName (type : Nat) : String :=
  if type = clientHelloType then "ClientHello"
  else if type = serverHelloType then "ServerHello"
  else if type = encryptedExtensionsType then "EncryptedExtensions"
  else if type = certificateType then "Certificate"
  else if type = certificateVerifyType then "CertificateVerify"
  else if type = finishedType then "Finished"
  else s!"Unknown({type})"

/-- The name of the type of a message. -/
def name (message : Message) : String := typeName message.type

/-- The extensions of a message that can have some. -/
def extensions? (message : Message) : Option (List Extension) :=
  match message.content with
  | .clientHello _ _ extensions => extensions
  | .serverHello _ _ extensions => extensions
  | .encryptedExtensions extensions => some extensions
  | _ => none

/-! ## Writing -/

/-- A message of a known type, with a body whose size fits in four bytes. -/
def frame (type : UInt8) (body : Bytes) : Bytes :=
  type :: Bytes.vector24 body

/-- A message of any type. -/
def encode (type : Int) (body : Bytes) : Result Bytes := do
  let type ← Bytes.field 1 type
  return type ++ (← Bytes.packed24 body)

/-- The version number that hello messages carry for old readers. -/
def legacyVersion : Nat := 0x0303

/-- The suites that are offered by default. -/
def defaultSuites : List Int := [0x1301]

/-- The numbers of cipher suites, one after another. -/
def suiteList : List Int → Result Bytes
  | [] => .ok []
  | suite :: rest => do
    let first ← Bytes.field 2 suite
    return first ++ (← suiteList rest)

/-- A ClientHello. -/
def clientHello (publicKey : Bytes) (suites : List Int) (earlyData : Bool) (random : Bytes) :
    Result Bytes := do
  let share ← Extension.keyShare .offer publicKey
  let extensions := share ++ (Extension.supportedVersions .offer ++
    if earlyData then Extension.earlyData else [])
  let suites ← Bytes.vector 2 (← suiteList suites)
  let extensions ← Bytes.vector 2 extensions
  return frame 1
    (Bytes.bigEndian 2 legacyVersion ++ (random ++ (0 :: (suites ++ (1 :: 0 :: extensions)))))

/-- A ServerHello. -/
def serverHello (publicKey : Bytes) (suite : Int) (random : Bytes) : Result Bytes := do
  let share ← Extension.keyShare .answer publicKey
  let suite ← Bytes.field 2 suite
  let extensions ← Bytes.vector 2 (share ++ Extension.supportedVersions .answer)
  return frame 2
    (Bytes.bigEndian 2 legacyVersion ++ (random ++ (0 :: (suite ++ (0 :: extensions)))))

/-- EncryptedExtensions, which say whether early data was accepted. -/
def encryptedExtensions (earlyDataAccepted : Bool) : Bytes :=
  let extensions := if earlyDataAccepted then Extension.earlyData else []
  frame 8 (Bytes.bigEndian 2 extensions.length ++ extensions)

/-- A Certificate with a single certificate of any form, all of which fits in
four bytes. -/
def certificate (data : Bytes) : Bytes :=
  let entry := Bytes.bigEndian 3 data.length ++ (data ++ [0, 0])
  frame 11 (0 :: Bytes.vector24 entry)

/-- A Certificate with a single certificate of any form and size. -/
def encodeCertificate (data : Bytes) : Result Bytes := do
  let certificate ← Bytes.packed24 data
  let entries ← Bytes.packed24 (certificate ++ [0, 0])
  encode certificateType (0 :: entries)

/-- The signature algorithm that is used by default. -/
def ed25519 : Int := 0x0807

/-- A CertificateVerify. -/
def certificateVerify (algorithm : Int) (signature : Bytes) : Result Bytes := do
  let algorithm ← Bytes.field 2 algorithm
  let signature ← Bytes.vector 2 signature
  return frame 15 (algorithm ++ signature)

/-- A Finished. -/
def finished (verifyData : Bytes) : Bytes :=
  frame 20 verifyData

/-! ### Writers that look at the size

`frame`, and with it the messages above that are not a `Result`, leave out the
check that `encode` makes.  Where that check passes they write the same. -/

theorem encode_of_lt (type : UInt8) {body : Bytes} (h : body.length < 4294967296) :
    encode type.toNat body = .ok (frame type body) := by
  have hfield : Bytes.field 1 type.toNat = .ok [type] := by
    rw [Bytes.field_of_lt 1 type.toNat_lt, Bytes.bigEndian, Bytes.capacity_zero, Nat.div_one,
      UInt8.ofNat_toNat]
    rfl
  rw [← Bytes.capacity_four] at h
  rw [encode, hfield, Bytes.packed24_of_lt h]
  rfl

theorem certificate_eq_frame (data : Bytes) :
    certificate data = frame 11 (0 :: Bytes.vector24 (Bytes.vector24 data ++ [0, 0])) := by
  have hentry : Bytes.vector24 data ++ [0, 0] = Bytes.bigEndian 3 data.length ++ (data ++ [0, 0]) :=
    List.append_assoc _ _ _
  rw [certificate, hentry]

theorem encodeCertificate_of_lt {data : Bytes} (h : data.length + 9 < 4294967296) :
    encodeCertificate data = .ok (certificate data) := by
  have hentry : (Bytes.vector24 data ++ [0, 0]).length = data.length + 5 := by
    rw [List.length_append, Bytes.length_vector24]
    rfl
  have hbody : (0 :: Bytes.vector24 (Bytes.vector24 data ++ [0, 0])).length = data.length + 9 := by
    rw [List.length_cons, Bytes.length_vector24, hentry]
  rw [encodeCertificate, Bytes.packed24_of_lt (by rw [Bytes.capacity_four]; omega), Result.ok_bind,
    Bytes.packed24_of_lt (by rw [Bytes.capacity_four]; omega), Result.ok_bind, certificate_eq_frame]
  exact encode_of_lt 11 (hbody ▸ h)

theorem encode_encryptedExtensions (earlyDataAccepted : Bool) :
    (do
      let extensions ← Bytes.vector 2 (if earlyDataAccepted then Extension.earlyData else [])
      encode encryptedExtensionsType extensions) = .ok (encryptedExtensions earlyDataAccepted) := by
  cases earlyDataAccepted with
  | true => rfl
  | false => rfl

theorem encode_finished {verifyData : Bytes} (h : verifyData.length < 4294967296) :
    encode finishedType verifyData = .ok (finished verifyData) :=
  encode_of_lt 20 h

/-! ## Reading -/

/-- The extension block at the end of a hello message, which may be absent. -/
def helloExtensions (form : Extension.Form) : Bytes → Option (List Extension)
  | n₁ :: n₂ :: rest => some (Extension.parse form (rest.take (Bytes.bigEndianValue [n₁, n₂])))
  | _ => none

/-- Exactly `count` two-byte numbers. -/
def wordList : Nat → Bytes → Result (List Nat)
  | 0, _ => .ok []
  | count + 1, high :: low :: rest => do
    return (256 * high.toNat + low.toNat) :: (← wordList count rest)
  | _, _ => .error .badField

/-- The random of a hello message, and what follows its session id.  The body
has at least 35 bytes. -/
def helloParts (body : Bytes) : Bytes × Bytes :=
  let sessionIdSize := ((body.drop 34).headD 0).toNat
  ((body.drop 2).take 32, body.drop (35 + sessionIdSize))

/-- Read the body of a ClientHello.  An odd size of the suite list is rounded
up to whole suites. -/
def readClientHello (body : Bytes) : Result Content := do
  let (random, rest) := helloParts body
  let size ← Bytes.word rest
  let suites ← wordList ((size + 1) / 2) (rest.drop 2)
  match rest.drop (2 + size) with
  | [] => throw .byteMissing
  | compressionSize :: rest =>
    return .clientHello random suites (helloExtensions .offer (rest.drop compressionSize.toNat))

/-- Read the body of a ServerHello. -/
def readServerHello (body : Bytes) : Result Content := do
  let (random, rest) := helloParts body
  let suite ← Bytes.word rest
  return .serverHello random suite (helloExtensions .answer (rest.drop 3))

/-- Read the body of a message.  Hello messages of fewer than 35 bytes and
extension blocks of fewer than two are not understood. -/
def readContent (type : Nat) (body : Bytes) : Result Content :=
  if type = clientHelloType && Bytes.hasAtLeast 35 body then readClientHello body
  else if type = serverHelloType && Bytes.hasAtLeast 35 body then readServerHello body
  else if type = encryptedExtensionsType then
    match helloExtensions .offer body with
    | some extensions => .ok (.encryptedExtensions extensions)
    | none => .ok .plain
  else if type = finishedType then .ok (.finished body)
  else .ok .plain

/-- The messages at the front of a byte string, and what stopped the reading
if a message could not be read. -/
structure Reading where
  messages : List Message := []
  failure : Option Error := none
deriving DecidableEq, Repr

/-- Read the complete messages at the front of a byte string.  Bytes of an
incomplete message at the end are ignored. -/
def readAll : Bytes → Reading
  | type :: n₁ :: n₂ :: n₃ :: rest =>
    let size := Bytes.bigEndianValue [n₁, n₂, n₃]
    if Bytes.hasAtLeast size rest then
      match readContent type.toNat (rest.take size) with
      | .error e => { failure := some e }
      | .ok content =>
        let later := readAll (rest.drop size)
        { later with messages := { type := type.toNat, size, content } :: later.messages }
    else {}
  | _ => {}
termination_by bytes => bytes.length
decreasing_by simp; omega

/-- The messages of a reading that came to its end. -/
def Reading.toResult (reading : Reading) : Result (List Message) :=
  match reading.failure with
  | some e => .error e
  | none => .ok reading.messages

/-- The notes of a reading. -/
def Reading.notes (reading : Reading) : List Note :=
  reading.messages.map fun message => .messageRead message.name message.size

/-- Read the complete messages at the front of a byte string, all of which
have to be readable. -/
def parse (bytes : Bytes) : Result (List Message) :=
  (readAll bytes).toResult

end Message

end RecordLayer
