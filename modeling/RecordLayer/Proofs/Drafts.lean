import Mathlib.Data.List.Forall2
import Mathlib.Tactic.Common
import RecordLayer.Proofs.Flights

/-!
# Flights read back

A draft is what a handshake message is written from.  `Draft.Shows` says what
a reader has to understand of the message in the end, in terms of the draft.

* `Written.exists_body`: every message that was written has one body, and the
  reader of bodies understands it as the draft says.
* `readAll_flight`: messages that were written, one after another and in any
  order, are read back one by one, and what is incomplete at the end is not
  read.

`parse_flight` is the result, with the texts of the group and the version.
-/

namespace RecordLayer.Message

/-! ## Drafts -/

/-- What a message is written from. -/
inductive Draft where
  /-- Where no suites are given, the default ones are offered. -/
  | clientHello (publicKey : Bytes) (suites : Option (List Int)) (earlyData : Bool)
      (random : Bytes)
  | serverHello (publicKey : Bytes) (suite : Int) (random : Bytes)
  | encryptedExtensions (earlyDataAccepted : Bool)
  | certificate (data : Bytes)
  | certificateVerify (signature : Bytes) (algorithm : Int)
  | finished (verifyData : Bytes)
deriving DecidableEq, Repr

namespace Draft

/-- The message for a draft. -/
def write : Draft → Result Bytes
  | .clientHello publicKey suites earlyData random =>
    Message.clientHello publicKey (suites.getD defaultSuites) earlyData random
  | .serverHello publicKey suite random => Message.serverHello publicKey suite random
  | .encryptedExtensions earlyDataAccepted => .ok (Message.encryptedExtensions earlyDataAccepted)
  | .certificate data => .ok (Message.certificate data)
  | .certificateVerify signature algorithm => Message.certificateVerify algorithm signature
  | .finished verifyData => .ok (Message.finished verifyData)

/-- The type of the message for a draft. -/
def type : Draft → Nat
  | .clientHello .. => clientHelloType
  | .serverHello .. => serverHelloType
  | .encryptedExtensions _ => encryptedExtensionsType
  | .certificate _ => certificateType
  | .certificateVerify .. => certificateVerifyType
  | .finished _ => finishedType

/-- The random of a hello message has 32 bytes. -/
def HasRandom : Draft → Prop
  | .clientHello _ _ _ random => random.length = 32
  | .serverHello _ _ random => random.length = 32
  | _ => True

/-- What is understood of a message is what it was written from.  Nothing is
understood of certificates. -/
def Shows : Draft → Content → Prop
  | .clientHello publicKey suites earlyData random, content =>
    ∃ offered, content =
        .clientHello random offered (some (Extension.hello .offer publicKey earlyData)) ∧
      offered.map Int.ofNat = suites.getD defaultSuites
  | .serverHello publicKey suite random, content =>
    ∃ chosen : Nat, content =
        .serverHello random chosen (some (Extension.hello .answer publicKey false)) ∧
      chosen = suite
  | .encryptedExtensions earlyDataAccepted, content =>
    content = .encryptedExtensions (Extension.mark earlyDataAccepted)
  | .certificate _, content => content = .plain
  | .certificateVerify .., content => content = .plain
  | .finished verifyData, content => content = .finished verifyData

end Draft

/-- A message that was written from a draft, with a size that its three bytes
can tell. -/
structure Written where
  draft : Draft
  bytes : Bytes
  random : draft.HasRandom
  write : draft.write = .ok bytes
  size : bytes.length < 4 + 16777216

/-! ## One message -/

/-- The suites that are read back are those that were written. -/
theorem map_toNat_of_suiteList {suites : List Int} {bytes : Bytes}
    (h : suiteList suites = .ok bytes) : (suites.map Int.toNat).map Int.ofNat = suites := by
  induction suites generalizing bytes with
  | nil => rfl
  | cons suite suites ih =>
    rw [suiteList] at h
    cases hfirst : Bytes.field 2 suite with
    | error e => rw [hfirst] at h; cases h
    | ok first =>
    cases hrest : suiteList suites with
    | error e => rw [hfirst, Result.ok_bind, hrest] at h; cases h
    | ok others =>
      obtain ⟨⟨hnonneg, -⟩, -⟩ := Bytes.field_eq_ok_iff.1 hfirst
      rw [List.map_cons, List.map_cons, ih hrest]
      show (suite.toNat : Int) :: suites = suite :: suites
      rw [Int.toNat_of_nonneg hnonneg]

/-- A CertificateVerify is one message. -/
theorem eq_frame_of_certificateVerify {signature bytes : Bytes} {algorithm : Int}
    (h : certificateVerify algorithm signature = .ok bytes) : ∃ body, bytes = frame 15 body := by
  rw [certificateVerify] at h
  cases halgorithm : Bytes.field 2 algorithm with
  | error e => rw [halgorithm] at h; cases h
  | ok first =>
  cases hsignature : Bytes.vector 2 signature with
  | error e => rw [halgorithm, Result.ok_bind, hsignature] at h; cases h
  | ok second =>
    rw [halgorithm, Result.ok_bind, hsignature, Result.ok_bind] at h
    exact ⟨first ++ second, (Except.ok.inj h).symm⟩

/-- The body of EncryptedExtensions is read back. -/
theorem readContent_encryptedExtensions (earlyDataAccepted : Bool) :
    readContent encryptedExtensionsType
        (Bytes.bigEndian 2 (if earlyDataAccepted then Extension.earlyData else []).length ++
          if earlyDataAccepted then Extension.earlyData else []) =
      .ok (.encryptedExtensions (Extension.mark earlyDataAccepted)) := by
  have hextensions := @helloExtensions_of .offer
    (if earlyDataAccepted then Extension.earlyData else []) (by cases earlyDataAccepted <;> decide)
  rw [Extension.parse_mark] at hextensions
  rw [readContent, if_neg (by simp [clientHelloType, encryptedExtensionsType]),
    if_neg (by simp [serverHelloType, encryptedExtensionsType]), if_pos rfl, hextensions]

/-- A message that was written has one body, of which is understood what it was
written from. -/
theorem Written.exists_body (written : Written) :
    ∃ type body content, written.bytes = frame type body ∧ type.toNat = written.draft.type ∧
      body.length < 16777216 ∧ readContent type.toNat body = .ok content ∧
      written.draft.Shows content := by
  obtain ⟨draft, bytes, hrandom, hwrite, hsize⟩ := written
  cases draft with
  | clientHello publicKey suites earlyData random =>
    obtain ⟨body, hbytes, hbody, hread⟩ := exists_body_of_clientHello hrandom hwrite
    obtain ⟨_, _, -, hsuites, -⟩ := eq_frame_of_clientHello hwrite
    exact ⟨1, body, _, hbytes, rfl, hbody, hread, _, rfl, map_toNat_of_suiteList hsuites⟩
  | serverHello publicKey suite random =>
    obtain ⟨body, hbytes, hbody, hread⟩ := exists_body_of_serverHello hrandom hwrite
    obtain ⟨-, -, hnonneg, -⟩ := eq_frame_of_serverHello hwrite
    exact ⟨2, body, _, hbytes, rfl, hbody, hread, _, rfl, Int.toNat_of_nonneg hnonneg⟩
  | encryptedExtensions earlyDataAccepted =>
    obtain rfl := Except.ok.inj hwrite
    have hread := readContent_encryptedExtensions earlyDataAccepted
    refine ⟨8, _, _, rfl, rfl, ?_, hread, rfl⟩
    cases earlyDataAccepted <;> decide
  | certificate data =>
    obtain rfl := Except.ok.inj hwrite
    rw [certificate, length_frame] at hsize
    exact ⟨11, _, _, rfl, rfl, by omega, rfl, rfl⟩
  | certificateVerify signature algorithm =>
    obtain ⟨body, rfl⟩ := eq_frame_of_certificateVerify hwrite
    rw [length_frame] at hsize
    exact ⟨15, body, _, rfl, rfl, by omega, rfl, rfl⟩
  | finished verifyData =>
    obtain rfl := Except.ok.inj hwrite
    rw [finished, length_frame] at hsize
    exact ⟨20, verifyData, _, rfl, rfl, by omega, rfl, rfl⟩

/-! ## Messages one after another -/

/-- Bytes that are no complete message: there are fewer than four, or fewer
follow them than they announce. -/
def Incomplete : Bytes → Prop
  | _ :: n₁ :: n₂ :: n₃ :: rest => rest.length < Bytes.bigEndianValue [n₁, n₂, n₃]
  | _ => True

theorem readAll_of_incomplete {tail : Bytes} (h : Incomplete tail) : readAll tail = {} := by
  unfold readAll
  split
  next type n₁ n₂ n₃ rest =>
    have hshort : Bytes.hasAtLeast (Bytes.bigEndianValue [n₁, n₂, n₃]) rest = false := by
      rw [Bool.eq_false_iff, ne_eq, Bytes.hasAtLeast_iff]
      exact Nat.not_le.2 h
    simp only [hshort, Bool.false_eq_true, if_false]
  next => rfl

/-- A message as it was read is the one that was written. -/
structure Reads (written : Written) (message : Message) : Prop where
  type : message.type = written.draft.type
  size : 4 + message.size = written.bytes.length
  content : written.draft.Shows message.content

/-- Messages are read back one by one, up to what is incomplete. -/
theorem readAll_flight (flight : List Written) {tail : Bytes} (htail : Incomplete tail) :
    ∃ messages, readAll ((flight.map (·.bytes)).flatten ++ tail) = { messages } ∧
      List.Forall₂ Reads flight messages := by
  induction flight with
  | nil => exact ⟨[], readAll_of_incomplete htail, .nil⟩
  | cons written flight ih =>
    obtain ⟨messages, hread, hmessages⟩ := ih
    obtain ⟨type, body, content, hbytes, htype, hsize, hcontent, hshows⟩ := written.exists_body
    refine ⟨{ type := type.toNat, size := body.length, content } :: messages, ?_, .cons ?_ hmessages⟩
    · rw [List.map_cons, List.flatten_cons, List.append_assoc, hbytes,
        readAll_frame_append hsize hcontent, hread]
    · exact ⟨htype, by rw [hbytes, length_frame], hshows⟩

/-- Whatever messages were written, they are read back from their bytes, each
with its type, its size and what it was written from, and nothing is read of an
incomplete message behind them.  The group of a key share is shown as
`x25519`, and the version of TLS 1.3 as `0x0304`. -/
theorem parse_flight :
    Extension.groupName Extension.x25519Group = "x25519" ∧
      Extension.versionText Extension.tls13 = "0x0304" ∧
      ∀ (flight : List Written) (tail : Bytes), Incomplete tail →
        ∃ messages, parse ((flight.map (·.bytes)).flatten ++ tail) = .ok messages ∧
          List.Forall₂ Reads flight messages := by
  refine ⟨by decide, by decide, fun flight tail htail => ?_⟩
  obtain ⟨messages, hread, hmessages⟩ := readAll_flight flight htail
  exact ⟨messages, by rw [parse, hread, Reading.toResult], hmessages⟩

/-- The two hello messages, the rest of a server's flight and a ClientHello once
more, in front of a message that announces two bytes and has one. -/
theorem parse_flight_of_two_hellos :
    let random : Bytes := List.replicate 32 7
    let tail : Bytes := [20, 0, 0, 2, 1]
    ∃ flight : List Written,
      flight.map (·.draft) =
        [.clientHello [1, 2, 3] none true random, .serverHello [] 0x1302 random,
          .encryptedExtensions true, .certificate [5], .certificateVerify [6] ed25519,
          .finished [8, 9], .clientHello [] (some []) false random] ∧
      Incomplete tail ∧
      ∃ messages, parse ((flight.map (·.bytes)).flatten ++ tail) = .ok messages ∧
        messages.length = 7 ∧ List.Forall₂ Reads flight messages := by
  intro random tail
  let flight : List Written :=
    [⟨.clientHello [1, 2, 3] none true random, _, rfl, rfl, by decide⟩,
     ⟨.serverHello [] 0x1302 random, _, rfl, rfl, by decide⟩,
     ⟨.encryptedExtensions true, _, trivial, rfl, by decide⟩,
     ⟨.certificate [5], _, trivial, rfl, by decide⟩,
     ⟨.certificateVerify [6] ed25519, _, trivial, rfl, by decide⟩,
     ⟨.finished [8, 9], _, trivial, rfl, by decide⟩,
     ⟨.clientHello [] (some []) false random, _, rfl, rfl, by decide⟩]
  have htail : Incomplete tail := by
    show 1 < Bytes.bigEndianValue [0, 0, 2]
    decide
  obtain ⟨messages, hparse, hmessages⟩ := parse_flight.2.2 flight tail htail
  exact ⟨flight, rfl, htail, messages, hparse, hmessages.length_eq.symm, hmessages⟩

end RecordLayer.Message
