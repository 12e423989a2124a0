import Mathlib.Tactic.Common
import RecordLayer.Exchange.Content
import RecordLayer.Proofs.Messages

/-!
# Messages as they are written

The messages of a handshake can be written, are short enough for a record,
and are read back: the hello messages with the key that they were written
with, and the others as messages of their types.
-/

namespace RecordLayer

/-! ## Key shares -/

namespace Extension

/-- A key of 32 bytes can be shared. -/
theorem exists_keyShare (form : Form) {key : Bytes} (hkey : key.length = 32) :
    ∃ share, keyShare form key = .ok share ∧ share.length ≤ 42 := by
  have hbound : shareSize form key.length ≤ 38 := by
    rw [hkey]
    cases form <;> decide
  obtain ⟨share, hshare⟩ := (exists_keyShare_iff form key).2 (by omega)
  obtain ⟨body, rfl, -, hsize, -⟩ := eq_frame_of_keyShare hshare
  refine ⟨_, hshare, ?_⟩
  rw [frame, List.length_append, List.length_append, Bytes.length_bigEndian, Bytes.length_bigEndian]
  omega

end Extension

namespace Message

theorem length_frame (type : UInt8) (body : Bytes) : (frame type body).length = 4 + body.length := by
  rw [frame, Bytes.vector24, List.length_cons, List.length_append, Bytes.length_bigEndian]
  omega

/-! ## Hello messages -/

/-- A ServerHello can be written, and carries the key. -/
theorem exists_serverHello {key random : Bytes} (hkey : key.length = 32)
    (hrandom : random.length = 32) (suite : CipherSuite) :
    ∃ bytes message, serverHello key suite.code random = .ok bytes ∧
      bytes.length < 4294967296 ∧ Opens bytes message ∧ message.Carries key := by
  obtain ⟨share, hshare, hlength⟩ := Extension.exists_keyShare .answer hkey
  have hsuite : Bytes.field 2 (suite.code : Int) = .ok (Bytes.bigEndian 2 suite.code) :=
    Bytes.field_of_lt 2 (by cases suite <;> decide)
  have hversions : (Extension.supportedVersions .answer).length = 6 := by decide
  have hextensions := @Bytes.vector_of_lt 2 (share ++ Extension.supportedVersions .answer)
    (by rw [List.length_append, hversions, Bytes.capacity_two]; omega)
  have hwritten : ∃ bytes, serverHello key suite.code random = .ok bytes := by
    rw [serverHello, hshare, Result.ok_bind, hsuite, Result.ok_bind, hextensions, Result.ok_bind]
    exact ⟨_, rfl⟩
  obtain ⟨bytes, hbytes⟩ := hwritten
  obtain ⟨size, hparse⟩ := parse_serverHello hrandom hbytes
  refine ⟨bytes, _, hbytes, ?_, ⟨[], hparse⟩, ?_⟩
  · obtain ⟨share', hshare', -, -, -, rfl⟩ := eq_frame_of_serverHello hbytes
    rw [hshare] at hshare'
    obtain rfl := Except.ok.inj hshare'
    rw [length_frame, length_serverHelloBody hrandom, List.length_append, hversions]
    omega
  · exact ⟨_, _, _, _, rfl, Extension.find?_hello .answer key false, rfl⟩

/-- A ClientHello that offers one suite can be written, and carries the key. -/
theorem exists_clientHello {key random : Bytes} (hkey : key.length = 32)
    (hrandom : random.length = 32) (suite : CipherSuite) (early : Bool) :
    ∃ bytes message, clientHello key [suite.code] early random = .ok bytes ∧
      bytes.length < 4294967296 ∧ Opens bytes message ∧ message.Carries key := by
  obtain ⟨share, hshare, hlength⟩ := Extension.exists_keyShare .offer hkey
  have hsuite : suiteList [(suite.code : Int)] = .ok (Bytes.bigEndian 2 suite.code ++ []) := by
    rw [suiteList, Bytes.field_of_lt 2 (by cases suite <;> decide)]
    rfl
  have hsuites := @Bytes.vector_of_lt 2 (Bytes.bigEndian 2 suite.code ++ [])
    (by rw [List.append_nil, Bytes.length_bigEndian]; decide)
  have hrest : (Extension.supportedVersions .offer ++
      if early then Extension.earlyData else []).length ≤ 11 := by
    cases early <;> decide
  have hextensions := @Bytes.vector_of_lt 2 (share ++ (Extension.supportedVersions .offer ++
    if early then Extension.earlyData else []))
    (by rw [List.length_append, Bytes.capacity_two]; omega)
  have hwritten : ∃ bytes, clientHello key [suite.code] early random = .ok bytes := by
    rw [clientHello, hshare, Result.ok_bind, hsuite, Result.ok_bind, hsuites, Result.ok_bind,
      hextensions, Result.ok_bind]
    exact ⟨_, rfl⟩
  obtain ⟨bytes, hbytes⟩ := hwritten
  obtain ⟨size, hparse⟩ := parse_clientHello hrandom hbytes
  refine ⟨bytes, _, hbytes, ?_, ⟨[], hparse⟩, ?_⟩
  · obtain ⟨share', suites', hshare', -, hsuites', -, rfl⟩ := eq_frame_of_clientHello hbytes
    rw [hshare] at hshare'
    obtain rfl := Except.ok.inj hshare'
    rw [length_frame, length_clientHelloBody hrandom, List.length_append]
    omega
  · exact ⟨_, _, _, _, rfl, Extension.find?_hello .offer key early, rfl⟩

/-! ## The other messages -/

/-- A message that was framed is read back. -/
theorem opens_frame {type : UInt8} {body : Bytes} {content : Content}
    (hsize : body.length < 16777216) (hcontent : readContent type.toNat body = .ok content) :
    Opens (frame type body) { type := type.toNat, size := body.length, content } :=
  ⟨[], parse_frame hsize hcontent⟩

theorem opens_finished {verifyData : Bytes} (hsize : verifyData.length < 16777216) :
    Opens (finished verifyData)
      { type := finishedType, size := verifyData.length, content := .finished verifyData } :=
  opens_frame hsize rfl

/-- The CertificateVerify of the scripted server. -/
def scriptedVerify : Bytes :=
  frame 15 (Bytes.bigEndian 2 0x0807 ++ (Bytes.bigEndian 2 64 ++ List.replicate 64 0))

theorem certificateVerify_scripted :
    certificateVerify ed25519 (List.replicate 64 0) = .ok scriptedVerify := by
  have halgorithm : Bytes.field 2 ed25519 = .ok (Bytes.bigEndian 2 0x0807) :=
    Bytes.field_of_lt 2 (by decide)
  have hsignature : Bytes.vector 2 (List.replicate 64 0) =
      .ok (Bytes.bigEndian 2 64 ++ List.replicate 64 0) :=
    Bytes.vector_of_lt 2 (by decide)
  rw [certificateVerify, halgorithm, Result.ok_bind, hsignature, Result.ok_bind]
  rfl

/-- The messages between the ServerHello and the Finished message. -/
def scriptedFlight (earlyDataAccepted : Bool) : List Bytes :=
  [encryptedExtensions earlyDataAccepted, certificate scriptedCertificate, scriptedVerify]

/-- None of them is a Finished, and all are short. -/
theorem opens_of_mem_scriptedFlight {earlyDataAccepted : Bool} {data : Bytes}
    (h : data ∈ scriptedFlight earlyDataAccepted) :
    data.length ≤ 100 ∧ ∃ message, Opens data message ∧ message.type ≠ finishedType := by
  simp only [scriptedFlight, List.mem_cons, List.not_mem_nil, or_false] at h
  rcases h with rfl | rfl | rfl
  · cases earlyDataAccepted with
    | false => exact ⟨by decide, _, opens_frame (by decide) rfl, by decide⟩
    | true => exact ⟨by decide, _, opens_frame (by decide) rfl, by decide⟩
  · exact ⟨by decide, _, opens_frame (by decide) rfl, by decide⟩
  · exact ⟨by decide, _, opens_frame (by decide) rfl, by decide⟩

end Message

end RecordLayer
