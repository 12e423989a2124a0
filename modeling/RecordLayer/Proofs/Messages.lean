import Mathlib.Tactic.Common
import RecordLayer.Exchange.Content

/-!
# Messages as they are read

What is read of handshake messages, in general and of those that a handshake
is made of.

* `Message.readAll_frame_append` reads one message in front of others.
* `Message.content_eq_finished_iff`: a message is understood as a Finished
  exactly when its type says so.
* `Message.parse_clientHello` and `Message.parse_serverHello` read back what
  hello messages were written from.
-/

namespace RecordLayer

/-! ## Numbers of two and three bytes -/

namespace Bytes

/-- Two bytes that write a number. -/
theorem exists_bigEndian_two {n : Nat} (h : n < 65536) :
    ∃ high low, bigEndian 2 n = [high, low] ∧ bigEndianValue [high, low] = n := by
  refine ⟨_, _, rfl, ?_⟩
  have hvalue := bigEndianValue_bigEndian 2 n
  rw [capacity_two, Nat.mod_eq_of_lt h] at hvalue
  exact hvalue

/-- Three bytes that write a number. -/
theorem exists_bigEndian_three {n : Nat} (h : n < 16777216) :
    ∃ high middle low, bigEndian 3 n = [high, middle, low] ∧
      bigEndianValue [high, middle, low] = n := by
  refine ⟨_, _, _, rfl, ?_⟩
  have hvalue := bigEndianValue_bigEndian 3 n
  rw [capacity_three, Nat.mod_eq_of_lt h] at hvalue
  exact hvalue

/-- The two-byte number in front is there exactly if two bytes are. -/
theorem word_eq (bytes : Bytes) :
    word bytes = if bytes.length < 2 then .error .badField else .ok (bigEndianValue (bytes.take 2)) := by
  match bytes with
  | [] => rfl
  | [_] => rfl
  | high :: low :: rest =>
    rw [if_neg (by simp)]
    simp [word, word?, bigEndianValue, bigEndianFrom]

/-- A two-byte number in front is read back. -/
theorem word_bigEndian_append {n : Nat} (h : n < 65536) (rest : Bytes) :
    word (bigEndian 2 n ++ rest) = .ok n := by
  obtain ⟨high, low, hbytes, hvalue⟩ := exists_bigEndian_two h
  have hword : word? ([high, low] ++ rest) = some n := by
    rw [← hvalue]
    simp [word?, bigEndianValue, bigEndianFrom]
  rw [hbytes, word, hword]

end Bytes

/-! ## Extensions -/

namespace Extension

/-- One extension in front of others is read. -/
theorem parse_frame_append (form : Form) {type : Nat} {body : Bytes} (htype : type < 65536)
    (hbody : body.length < 65536) (rest : Bytes) :
    parse form (frame type body ++ rest) =
      { type, size := body.length, content := contentOf form type body } :: parse form rest := by
  obtain ⟨t₁, t₂, htype, hvalue⟩ := Bytes.exists_bigEndian_two htype
  obtain ⟨n₁, n₂, hsize, hlength⟩ := Bytes.exists_bigEndian_two hbody
  have hbytes : frame type body ++ rest = t₁ :: t₂ :: n₁ :: n₂ :: (body ++ rest) := by
    simp [frame, htype, hsize]
  rw [hbytes, parse, hvalue, hlength, List.take_left, List.drop_left]

@[simp] theorem parse_nil (form : Form) : parse form [] = [] := by
  simp [parse]

/-- An extension that was written has a type and a body that fit. -/
theorem eq_frame_of_encode {type : Nat} {body bytes : Bytes} (h : encode type body = .ok bytes) :
    body.length < 65536 ∧ bytes = frame type body := by
  rw [encode] at h
  cases htype : Bytes.field 2 type with
  | error e => rw [htype] at h; cases h
  | ok first =>
  cases hbody : Bytes.vector 2 body with
  | error e => rw [htype, hbody] at h; cases h
  | ok second =>
    rw [htype, hbody] at h
    obtain ⟨-, rfl⟩ := Bytes.field_eq_ok_iff.1 htype
    obtain ⟨hlength, rfl⟩ := Bytes.vector_eq_ok_iff.1 hbody
    exact ⟨hlength, (Except.ok.inj h).symm⟩

/-- A share as it is written is read back. -/
theorem shareOf_append {key : Bytes} (h : key.length < 65536) :
    shareOf (Bytes.bigEndian 2 x25519Group ++ (Bytes.bigEndian 2 key.length ++ key)) =
      .keyShare x25519Group key.length key := by
  obtain ⟨n₁, n₂, hbytes, hlength⟩ := Bytes.exists_bigEndian_two h
  have hgroup : Bytes.bigEndian 2 x25519Group = [0, 29] := by decide
  rw [hgroup, hbytes]
  show Content.keyShare (Bytes.bigEndianValue [0, 29]) (Bytes.bigEndianValue [n₁, n₂])
    (key.take (Bytes.bigEndianValue [n₁, n₂])) = _
  rw [hlength, List.take_length]
  rfl

theorem contentOf_keyShare_answer (body : Bytes) :
    contentOf .answer keyShareType body = shareOf body := by
  rw [contentOf, if_neg (by decide), if_pos rfl]

/-- When offered, the share stands behind the size of the list of shares. -/
theorem contentOf_keyShare_offer (size : Nat) (share : Bytes) :
    contentOf .offer keyShareType (Bytes.bigEndian 2 size ++ share) = shareOf share := by
  rw [contentOf, if_neg (by decide), if_pos rfl, List.drop_left' (Bytes.length_bigEndian 2 size)]

/-- The number of bytes in a key share extension. -/
def shareSize : Form → Nat → Nat
  | .offer, size => size + 6
  | .answer, size => size + 4

/-- A key share extension as it is written is one frame, and carries the key. -/
theorem eq_frame_of_keyShare {form : Form} {key bytes : Bytes} (h : keyShare form key = .ok bytes) :
    ∃ body, bytes = frame keyShareType body ∧ body.length < 65536 ∧
      body.length = shareSize form key.length ∧
      contentOf form keyShareType body = .keyShare x25519Group key.length key := by
  rw [keyShare] at h
  cases hkey : Bytes.vector 2 key with
  | error e => rw [hkey] at h; cases h
  | ok vector =>
  rw [hkey, Result.ok_bind] at h
  obtain ⟨hlength, rfl⟩ := Bytes.vector_eq_ok_iff.1 hkey
  cases form with
  | answer =>
    dsimp only at h
    obtain ⟨hbody, rfl⟩ := eq_frame_of_encode h
    refine ⟨_, rfl, hbody, ?_, (contentOf_keyShare_answer _).trans (shareOf_append hlength)⟩
    simp only [List.length_append, Bytes.length_bigEndian, shareSize]
    omega
  | offer =>
    dsimp only at h
    cases hlist : Bytes.vector 2 (Bytes.bigEndian 2 x25519Group ++
        (Bytes.bigEndian 2 key.length ++ key)) with
    | error e => rw [hlist] at h; cases h
    | ok list =>
      rw [hlist, Result.ok_bind] at h
      obtain ⟨-, rfl⟩ := Bytes.vector_eq_ok_iff.1 hlist
      obtain ⟨hbody, rfl⟩ := eq_frame_of_encode h
      refine ⟨_, rfl, hbody, ?_, (contentOf_keyShare_offer _ _).trans (shareOf_append hlength)⟩
      simp only [List.length_append, Bytes.length_bigEndian, shareSize]
      omega

/-- A key can be shared exactly if its share fits an extension. -/
theorem exists_keyShare_iff (form : Form) (key : Bytes) :
    (∃ share, keyShare form key = .ok share) ↔ shareSize form key.length < 65536 := by
  constructor
  · rintro ⟨share, hshare⟩
    obtain ⟨body, -, hbody, hsize, -⟩ := eq_frame_of_keyShare hshare
    omega
  intro hfits
  have hentry : (Bytes.bigEndian 2 x25519Group ++ (Bytes.bigEndian 2 key.length ++ key)).length =
      key.length + 4 := by
    rw [List.length_append, List.length_append, Bytes.length_bigEndian, Bytes.length_bigEndian]
    omega
  cases form with
  | answer =>
    change key.length + 4 < 65536 at hfits
    have hkey := @Bytes.vector_of_lt 2 key (by rw [Bytes.capacity_two]; omega)
    rw [keyShare, hkey, Result.ok_bind]
    exact ⟨_, encode_of_lt (by decide) (by omega)⟩
  | offer =>
    change key.length + 6 < 65536 at hfits
    have hkey := @Bytes.vector_of_lt 2 key (by rw [Bytes.capacity_two]; omega)
    have hlist := @Bytes.vector_of_lt 2
      (Bytes.bigEndian 2 x25519Group ++ (Bytes.bigEndian 2 key.length ++ key))
      (by rw [Bytes.capacity_two]; omega)
    rw [keyShare, hkey, Result.ok_bind]
    dsimp only
    rw [hlist, Result.ok_bind]
    refine ⟨_, encode_of_lt (by decide) ?_⟩
    rw [List.length_append, Bytes.length_bigEndian]
    omega

/-- The mark of early data as it is read back, if it is there. -/
def mark (earlyData : Bool) : List Extension :=
  if earlyData then [{ type := earlyDataType, size := 0, content := .plain }] else []

/-- The mark of early data is read back where it was written. -/
theorem parse_mark (form : Form) (early : Bool) :
    parse form (if early then earlyData else []) = mark early := by
  cases early with
  | false => exact parse_nil form
  | true =>
    have hparse := @parse_frame_append form earlyDataType [] (by decide) (by decide) []
    rw [List.append_nil, parse_nil] at hparse
    rw [if_pos rfl, earlyData, hparse]
    cases form <;> rfl

/-- The extensions of a hello message as they are read back. -/
def hello (form : Form) (key : Bytes) (earlyData : Bool) : List Extension :=
  { type := keyShareType, size := shareSize form key.length,
    content := .keyShare x25519Group key.length key } ::
  (match form with
    | .offer =>
      { type := supportedVersionsType, size := 3, content := .offeredVersions [tls13] }
    | .answer =>
      { type := supportedVersionsType, size := 2, content := .chosenVersion tls13 }) ::
  mark earlyData

/-- The extensions of a hello message are read back as they were written. -/
theorem parse_hello {form : Form} {key share : Bytes} (h : keyShare form key = .ok share)
    (early : Bool) :
    parse form (share ++ (supportedVersions form ++ if early then earlyData else [])) =
      hello form key early := by
  obtain ⟨body, rfl, hbody, hsize, hcontent⟩ := eq_frame_of_keyShare h
  rw [parse_frame_append form (by decide) hbody, hcontent, hsize]
  unfold hello
  refine congrArg (List.cons _) ?_
  cases form with
  | offer =>
    rw [supportedVersions, parse_frame_append .offer (by decide) (by decide), parse_mark]
    rfl
  | answer =>
    rw [supportedVersions, parse_frame_append .answer (by decide) (by decide), parse_mark]
    rfl

/-- The first key share of a hello message is the one that was written. -/
theorem find?_hello (form : Form) (key : Bytes) (earlyData : Bool) :
    find? (hello form key earlyData) keyShareType =
      some { type := keyShareType, size := shareSize form key.length,
             content := .keyShare x25519Group key.length key } := rfl

end Extension

namespace Message

/-! ## One message in front of others -/

/-- A complete message that can be read, in front of others. -/
theorem readAll_frame_append {type : UInt8} {body : Bytes} {content : Content}
    (hsize : body.length < 16777216) (hcontent : readContent type.toNat body = .ok content)
    (rest : Bytes) :
    readAll (frame type body ++ rest) =
      { readAll rest with
        messages := { type := type.toNat, size := body.length, content } ::
          (readAll rest).messages } := by
  obtain ⟨n₁, n₂, n₃, hbytes, hlength⟩ := Bytes.exists_bigEndian_three hsize
  have hframe : frame type body ++ rest = type :: n₁ :: n₂ :: n₃ :: (body ++ rest) := by
    simp [frame, Bytes.vector24, hbytes]
  have henough : Bytes.hasAtLeast body.length (body ++ rest) = true := by
    rw [Bytes.hasAtLeast_iff, List.length_append]
    omega
  rw [hframe, readAll]
  simp only [hlength, henough, if_true, List.take_left, List.drop_left, hcontent]

/-- A complete message alone. -/
theorem parse_frame {type : UInt8} {body : Bytes} {content : Content}
    (hsize : body.length < 16777216) (hcontent : readContent type.toNat body = .ok content) :
    parse (frame type body) = .ok [{ type := type.toNat, size := body.length, content }] := by
  have hread := readAll_frame_append hsize hcontent []
  have hnil : readAll [] = {} := by simp [readAll]
  rw [List.append_nil, hnil] at hread
  rw [parse, hread]
  rfl

/-! ## Finished -/

theorem length_finished (verifyData : Bytes) :
    (finished verifyData).length = 4 + verifyData.length := by
  simp only [finished, frame, Bytes.vector24, List.length_cons, List.length_append,
    Bytes.length_bigEndian]
  omega

/-- The body of a ClientHello is understood as nothing else. -/
theorem exists_of_readClientHello {body : Bytes} {content : Content}
    (h : readClientHello body = .ok content) :
    ∃ random suites extensions, content = .clientHello random suites extensions := by
  simp only [readClientHello] at h
  cases hword : Bytes.word (helloParts body).2 with
  | error e => rw [hword] at h; cases h
  | ok size =>
  rw [hword] at h
  cases hsuites : wordList ((size + 1) / 2) ((helloParts body).2.drop 2) with
  | error e => simp [hsuites, Bind.bind, Except.bind] at h
  | ok suites =>
  simp only [hsuites, Bind.bind, Except.bind] at h
  split at h
  next => cases h
  next => exact ⟨_, _, _, (Except.ok.inj h).symm⟩

/-- The body of a ServerHello is understood as nothing else. -/
theorem exists_of_readServerHello {body : Bytes} {content : Content}
    (h : readServerHello body = .ok content) :
    ∃ random suite extensions, content = .serverHello random suite extensions := by
  simp only [readServerHello] at h
  cases hword : Bytes.word (helloParts body).2 with
  | error e => rw [hword] at h; cases h
  | ok suite =>
    rw [hword] at h
    exact ⟨_, _, _, (Except.ok.inj h).symm⟩

/-- Only the body of a Finished is understood as one. -/
theorem content_of_readContent {type : Nat} {body : Bytes} {content : Content}
    (h : readContent type body = .ok content) :
    (∃ verifyData, content = .finished verifyData) ↔ type = finishedType := by
  rw [readContent] at h
  split_ifs at h with hclient hserver hextensions hfinished
  · obtain ⟨_, _, _, rfl⟩ := exists_of_readClientHello h
    have htype : type = clientHelloType := by simpa using (Bool.and_eq_true_iff.1 hclient).1
    simp [htype, clientHelloType, finishedType]
  · obtain ⟨_, _, _, rfl⟩ := exists_of_readServerHello h
    have htype : type = serverHelloType := by simpa using (Bool.and_eq_true_iff.1 hserver).1
    simp [htype, serverHelloType, finishedType]
  · have hcontent : ∀ verifyData, content ≠ .finished verifyData := by
      rintro verifyData rfl
      split at h <;> cases h
    simp [hextensions, hcontent, encryptedExtensionsType, finishedType]
  · obtain rfl := Except.ok.inj h
    simp [hfinished]
  · obtain rfl := Except.ok.inj h
    simp [hfinished]

/-- Every message that is read has got its content from some body. -/
theorem exists_body_of_mem {bytes : Bytes} {message : Message}
    (h : message ∈ (readAll bytes).messages) :
    ∃ body, readContent message.type body = .ok message.content := by
  fun_induction readAll bytes with
  | case1 => simp at h
  | case2 type n₁ n₂ n₃ rest size hsize content hcontent later ih =>
    rcases List.mem_cons.1 h with rfl | h
    · exact ⟨_, hcontent⟩
    · exact ih h
  | case3 => simp at h
  | case4 => simp at h

/-- A reading that came to its end gives the messages that it has read. -/
theorem messages_of_parse {bytes : Bytes} {messages : List Message}
    (h : parse bytes = .ok messages) : (readAll bytes).messages = messages := by
  rw [parse, Reading.toResult] at h
  split at h
  next => cases h
  next => exact Except.ok.inj h

/-- A message that is read is understood as a Finished exactly when its type
says so. -/
theorem content_eq_finished_iff {bytes : Bytes} {messages : List Message}
    (h : parse bytes = .ok messages) {message : Message} (hmem : message ∈ messages) :
    (∃ verifyData, message.content = .finished verifyData) ↔ message.type = finishedType := by
  obtain ⟨body, hbody⟩ := exists_body_of_mem (messages_of_parse h ▸ hmem)
  exact content_of_readContent hbody

/-! ## Hello messages -/

/-- The parts of a hello message with an empty session id. -/
theorem helloParts_of {random : Bytes} (hrandom : random.length = 32) (rest : Bytes) :
    helloParts (Bytes.bigEndian 2 legacyVersion ++ (random ++ (0 :: rest))) = (random, rest) := by
  have hfirst : ((Bytes.bigEndian 2 legacyVersion ++ (random ++ (0 :: rest))).drop 2) =
      random ++ (0 :: rest) := rfl
  have hsecond : ((Bytes.bigEndian 2 legacyVersion ++ (random ++ (0 :: rest))).drop 34) =
      0 :: rest := by
    rw [show 34 = 2 + 32 from rfl, ← List.drop_drop, hfirst, ← hrandom, List.drop_left]
  have hthird : ((Bytes.bigEndian 2 legacyVersion ++ (random ++ (0 :: rest))).drop 35) = rest := by
    rw [show 35 = 34 + 1 from rfl, ← List.drop_drop, hsecond]
    rfl
  rw [helloParts, hfirst, hsecond]
  show (_, List.drop 35 _) = _
  rw [hthird, ← hrandom, List.take_left]

/-- The extension block of a hello message that was written with one. -/
theorem helloExtensions_of (form : Extension.Form) {extensions : Bytes}
    (h : extensions.length < 65536) :
    helloExtensions form (Bytes.bigEndian 2 extensions.length ++ extensions) =
      some (Extension.parse form extensions) := by
  obtain ⟨high, low, hbytes, hvalue⟩ := Bytes.exists_bigEndian_two h
  rw [hbytes]
  show some (Extension.parse form (extensions.take (Bytes.bigEndianValue [high, low]))) = _
  rw [hvalue, List.take_length]

/-- The body of a ServerHello as it is written. -/
def serverHelloBody (random : Bytes) (suite : Nat) (extensions : Bytes) : Bytes :=
  Bytes.bigEndian 2 legacyVersion ++ (random ++ (0 :: (Bytes.bigEndian 2 suite ++
    (0 :: (Bytes.bigEndian 2 extensions.length ++ extensions)))))

theorem readServerHello_body {random extensions : Bytes} {suite : Nat}
    (hrandom : random.length = 32) (hsuite : suite < 65536) (hextensions : extensions.length < 65536) :
    readServerHello (serverHelloBody random suite extensions) =
      .ok (.serverHello random suite (some (Extension.parse .answer extensions))) := by
  have hdrop : List.drop 3 (Bytes.bigEndian 2 suite ++
      (0 :: (Bytes.bigEndian 2 extensions.length ++ extensions))) =
        Bytes.bigEndian 2 extensions.length ++ extensions := by
    rw [show 3 = 2 + 1 from rfl, ← List.drop_drop, List.drop_left' (Bytes.length_bigEndian 2 suite)]
    rfl
  rw [readServerHello, serverHelloBody, helloParts_of hrandom]
  dsimp only
  rw [Bytes.word_bigEndian_append hsuite, Result.ok_bind, hdrop, helloExtensions_of .answer hextensions]
  rfl

/-- The body of a ClientHello as it is written. -/
def clientHelloBody (random suites extensions : Bytes) : Bytes :=
  Bytes.bigEndian 2 legacyVersion ++ (random ++ (0 :: ((Bytes.bigEndian 2 suites.length ++ suites) ++
    (1 :: 0 :: (Bytes.bigEndian 2 extensions.length ++ extensions)))))

/-- The suites of a ClientHello are read back as they were written. -/
theorem wordList_suiteList {suites : List Int} {bytes : Bytes} (h : suiteList suites = .ok bytes)
    (rest : Bytes) :
    bytes.length = 2 * suites.length ∧
      wordList suites.length (bytes ++ rest) = .ok (suites.map Int.toNat) := by
  induction suites generalizing bytes with
  | nil =>
    obtain rfl := Except.ok.inj h
    exact ⟨rfl, rfl⟩
  | cons suite suites ih =>
    rw [suiteList] at h
    cases hfirst : Bytes.field 2 suite with
    | error e => rw [hfirst] at h; cases h
    | ok first =>
    cases hrest : suiteList suites with
    | error e => rw [hfirst, Result.ok_bind, hrest] at h; cases h
    | ok others =>
      rw [hfirst, Result.ok_bind, hrest] at h
      obtain rfl := Except.ok.inj h
      obtain ⟨⟨hnonneg, hlt⟩, rfl⟩ := Bytes.field_eq_ok_iff.1 hfirst
      rw [Bytes.capacity_two] at hlt
      obtain ⟨hlength, hwords⟩ := ih hrest
      obtain ⟨high, low, hbytes, hvalue⟩ := @Bytes.exists_bigEndian_two suite.toNat (by omega)
      rw [hbytes]
      refine ⟨by simp [hlength]; omega, ?_⟩
      show (do return (256 * high.toNat + low.toNat) :: (← wordList suites.length (others ++ rest))) = _
      have hsuite : 256 * high.toNat + low.toNat = suite.toNat := by
        rw [← hvalue]
        simp [Bytes.bigEndianValue, Bytes.bigEndianFrom]
      rw [hwords, hsuite]
      rfl

theorem readClientHello_body {random suites extensions : Bytes} {numbers : List Int}
    (hrandom : random.length = 32) (hsuites : suiteList numbers = .ok suites)
    (hfits : suites.length < 65536) (hextensions : extensions.length < 65536) :
    readClientHello (clientHelloBody random suites extensions) =
      .ok (.clientHello random (numbers.map Int.toNat)
        (some (Extension.parse .offer extensions))) := by
  have hlist := wordList_suiteList hsuites
    (1 :: 0 :: (Bytes.bigEndian 2 extensions.length ++ extensions))
  have hcount : (suites.length + 1) / 2 = numbers.length := by omega
  have hword := Bytes.word_bigEndian_append hfits (suites ++
    (1 :: 0 :: (Bytes.bigEndian 2 extensions.length ++ extensions)))
  have hdrop : List.drop (2 + suites.length) (Bytes.bigEndian 2 suites.length ++ (suites ++
      (1 :: 0 :: (Bytes.bigEndian 2 extensions.length ++ extensions)))) =
        1 :: 0 :: (Bytes.bigEndian 2 extensions.length ++ extensions) := by
    rw [← List.drop_drop, List.drop_left' (Bytes.length_bigEndian 2 suites.length), List.drop_left]
  rw [readClientHello, clientHelloBody, helloParts_of hrandom]
  dsimp only
  rw [List.append_assoc, hword, Result.ok_bind,
    List.drop_left' (Bytes.length_bigEndian 2 suites.length), hcount, hlist.2, Result.ok_bind, hdrop]
  show Except.ok (Content.clientHello _ _ (helloExtensions .offer
    (Bytes.bigEndian 2 extensions.length ++ extensions))) = _
  rw [helloExtensions_of .offer hextensions]

/-- A ServerHello is one message with a key share. -/
theorem eq_frame_of_serverHello {key random bytes : Bytes} {suite : Int}
    (h : serverHello key suite random = .ok bytes) :
    ∃ share, Extension.keyShare .answer key = .ok share ∧ 0 ≤ suite ∧ suite < 65536 ∧
      (share ++ Extension.supportedVersions .answer).length < 65536 ∧
      bytes = frame 2 (serverHelloBody random suite.toNat
        (share ++ Extension.supportedVersions .answer)) := by
  rw [serverHello] at h
  cases hshare : Extension.keyShare .answer key with
  | error e => rw [hshare] at h; cases h
  | ok share =>
  rw [hshare, Result.ok_bind] at h
  cases hsuite : Bytes.field 2 suite with
  | error e => rw [hsuite] at h; cases h
  | ok suiteBytes =>
  rw [hsuite, Result.ok_bind] at h
  cases hextensions : Bytes.vector 2 (share ++ Extension.supportedVersions .answer) with
  | error e => rw [hextensions] at h; cases h
  | ok extensions =>
  rw [hextensions, Result.ok_bind] at h
  obtain ⟨hfits, rfl⟩ := Bytes.vector_eq_ok_iff.1 hextensions
  obtain ⟨⟨hnonneg, hlt⟩, rfl⟩ := Bytes.field_eq_ok_iff.1 hsuite
  exact ⟨share, rfl, hnonneg, hlt, hfits, (Except.ok.inj h).symm⟩

/-- A ClientHello is one message with a list of suites and a key share. -/
theorem eq_frame_of_clientHello {key random bytes : Bytes} {numbers : List Int} {early : Bool}
    (h : clientHello key numbers early random = .ok bytes) :
    ∃ share suites, Extension.keyShare .offer key = .ok share ∧
      suiteList numbers = .ok suites ∧ suites.length < 65536 ∧
      let extensions := share ++ (Extension.supportedVersions .offer ++
        if early then Extension.earlyData else [])
      extensions.length < 65536 ∧ bytes = frame 1 (clientHelloBody random suites extensions) := by
  rw [clientHello] at h
  cases hshare : Extension.keyShare .offer key with
  | error e => rw [hshare] at h; cases h
  | ok share =>
  rw [hshare, Result.ok_bind] at h
  cases hsuites : suiteList numbers with
  | error e => rw [hsuites] at h; cases h
  | ok suites =>
  rw [hsuites, Result.ok_bind] at h
  cases hvector : Bytes.vector 2 suites with
  | error e => rw [hvector] at h; cases h
  | ok suiteBytes =>
  rw [hvector, Result.ok_bind] at h
  cases hextensions : Bytes.vector 2 (share ++ (Extension.supportedVersions .offer ++
      if early then Extension.earlyData else [])) with
  | error e => rw [hextensions] at h; cases h
  | ok extensions =>
  rw [hextensions, Result.ok_bind] at h
  obtain ⟨hfits, rfl⟩ := Bytes.vector_eq_ok_iff.1 hextensions
  obtain ⟨hsuitesFit, rfl⟩ := Bytes.vector_eq_ok_iff.1 hvector
  exact ⟨share, suites, rfl, rfl, hsuitesFit, hfits, (Except.ok.inj h).symm⟩

theorem length_serverHelloBody {random extensions : Bytes} (hrandom : random.length = 32)
    (suite : Nat) :
    (serverHelloBody random suite extensions).length = 40 + extensions.length := by
  simp only [serverHelloBody, List.length_append, List.length_cons, Bytes.length_bigEndian, hrandom]
  omega

theorem length_clientHelloBody {random suites extensions : Bytes} (hrandom : random.length = 32) :
    (clientHelloBody random suites extensions).length =
      41 + suites.length + extensions.length := by
  simp only [clientHelloBody, List.length_append, List.length_cons, Bytes.length_bigEndian, hrandom]
  omega

/-- A ServerHello is one message, and its body is read back. -/
theorem exists_body_of_serverHello {key random bytes : Bytes} {suite : Int}
    (hrandom : random.length = 32) (h : serverHello key suite random = .ok bytes) :
    ∃ body, bytes = frame 2 body ∧ body.length < 16777216 ∧
      readContent serverHelloType body =
        .ok (.serverHello random suite.toNat (some (Extension.hello .answer key false))) := by
  obtain ⟨share, hshare, hnonneg, hlt, hfits, rfl⟩ := eq_frame_of_serverHello h
  have hextensions := Extension.parse_hello hshare false
  rw [if_neg Bool.false_ne_true, List.append_nil] at hextensions
  have hlength := @length_serverHelloBody random (share ++ Extension.supportedVersions .answer)
    hrandom suite.toNat
  have henough : Bytes.hasAtLeast 35 (serverHelloBody random suite.toNat
      (share ++ Extension.supportedVersions .answer)) = true := by
    rw [Bytes.hasAtLeast_iff]
    omega
  have hread := readServerHello_body hrandom (by omega : suite.toNat < 65536) hfits
  rw [hextensions] at hread
  refine ⟨_, rfl, by omega, ?_⟩
  rw [readContent, if_neg (by simp [clientHelloType, serverHelloType]),
    if_pos (by rw [henough]; rfl), hread]

/-- A ServerHello as it is read back. -/
theorem parse_serverHello {key random bytes : Bytes} {suite : Int} (hrandom : random.length = 32)
    (h : serverHello key suite random = .ok bytes) :
    ∃ size, parse bytes = .ok [
      { type := serverHelloType
        size
        content := .serverHello random suite.toNat (some (Extension.hello .answer key false)) }] := by
  obtain ⟨body, rfl, hsize, hread⟩ := exists_body_of_serverHello hrandom h
  exact ⟨_, parse_frame hsize hread⟩

/-- A ClientHello is one message, and its body is read back. -/
theorem exists_body_of_clientHello {key random bytes : Bytes} {numbers : List Int} {early : Bool}
    (hrandom : random.length = 32) (h : clientHello key numbers early random = .ok bytes) :
    ∃ body, bytes = frame 1 body ∧ body.length < 16777216 ∧
      readContent clientHelloType body =
        .ok (.clientHello random (numbers.map Int.toNat)
          (some (Extension.hello .offer key early))) := by
  obtain ⟨share, suites, hshare, hsuites, hsuitesFit, hfits, rfl⟩ := eq_frame_of_clientHello h
  have hextensions := Extension.parse_hello hshare early
  have hlength := @length_clientHelloBody random suites (share ++ (Extension.supportedVersions .offer ++
    if early then Extension.earlyData else [])) hrandom
  have henough : Bytes.hasAtLeast 35 (clientHelloBody random suites
      (share ++ (Extension.supportedVersions .offer ++
        if early then Extension.earlyData else []))) = true := by
    rw [Bytes.hasAtLeast_iff]
    omega
  have hread := readClientHello_body hrandom hsuites hsuitesFit hfits
  rw [hextensions] at hread
  refine ⟨_, rfl, by omega, ?_⟩
  rw [readContent, if_pos (by rw [henough]; rfl), hread]

/-- A ClientHello as it is read back. -/
theorem parse_clientHello {key random bytes : Bytes} {numbers : List Int} {early : Bool}
    (hrandom : random.length = 32) (h : clientHello key numbers early random = .ok bytes) :
    ∃ size, parse bytes = .ok [
      { type := clientHelloType
        size
        content := .clientHello random (numbers.map Int.toNat)
          (some (Extension.hello .offer key early)) }] := by
  obtain ⟨body, rfl, hsize, hread⟩ := exists_body_of_clientHello hrandom h
  exact ⟨_, parse_frame hsize hread⟩

/-- A payload that is readable as messages, the first of which is `message`. -/
def Opens (data : Bytes) (message : Message) : Prop :=
  ∃ others, parse data = .ok (message :: others)

theorem Opens.unique {data : Bytes} {message message' : Message} (h : Opens data message)
    (h' : Opens data message') : message = message' := by
  obtain ⟨others, hparse⟩ := h
  obtain ⟨others', hparse'⟩ := h'
  rw [hparse] at hparse'
  exact (List.cons.inj (Except.ok.inj hparse')).1

theorem Opens.content_eq_finished_iff {data : Bytes} {message : Message} (h : Opens data message) :
    (∃ verifyData, message.content = .finished verifyData) ↔ message.type = finishedType := by
  obtain ⟨others, hparse⟩ := h
  exact Message.content_eq_finished_iff hparse List.mem_cons_self

/-- A message carries a key in its first key share extension. -/
def Carries (message : Message) (key : Bytes) : Prop :=
  ∃ extensions share group size, message.extensions? = some extensions ∧
    Extension.find? extensions Extension.keyShareType = some share ∧
    share.content = .keyShare group size key

theorem Carries.unique {message : Message} {key key' : Bytes} (h : message.Carries key)
    (h' : message.Carries key') : key = key' := by
  obtain ⟨extensions, share, group, size, hextensions, hshare, hcontent⟩ := h
  obtain ⟨extensions', share', group', size', hextensions', hshare', hcontent'⟩ := h'
  rw [hextensions] at hextensions'
  rw [← Option.some.inj hextensions', hshare] at hshare'
  rw [← Option.some.inj hshare', hcontent] at hcontent'
  exact (Extension.Content.keyShare.inj hcontent').2.2

/-- The key is taken out of a message exactly when the message carries it. -/
theorem carries_iff {message : Message} {key : Bytes} :
    message.Carries key ↔
      ∃ share, message.keyShare? = .ok share ∧ Extension.key share = .ok key := by
  constructor
  · rintro ⟨extensions, share, group, size, hextensions, hshare, hcontent⟩
    refine ⟨some share, ?_, ?_⟩
    · rw [keyShare?, hextensions, ← hshare]
    · rw [Extension.key, hcontent]
  · rintro ⟨share, hshare, hkey⟩
    rw [keyShare?] at hshare
    cases hextensions : message.extensions? with
    | none => rw [hextensions] at hshare; cases hshare
    | some extensions =>
      rw [hextensions] at hshare
      cases share with
      | none => cases hkey
      | some share =>
        rw [Extension.key] at hkey
        split at hkey
        next group size key' hcontent =>
          obtain rfl := Except.ok.inj hkey
          exact ⟨extensions, share, group, size, hextensions, Except.ok.inj hshare, hcontent⟩
        next => cases hkey

end Message

/-- The first message is taken out of a record exactly when the record is one
of handshake messages and opens with it. -/
theorem Delivery.message_eq_ok_iff {delivery : Delivery} {message : Message} :
    delivery.message = .ok message ↔
      delivery.type = .handshake ∧ Message.Opens delivery.data message := by
  rw [Delivery.message]
  by_cases htype : delivery.type = .handshake
  case neg =>
    rw [if_pos htype]
    exact ⟨by rintro ⟨⟩, fun h => absurd h.1 htype⟩
  rw [if_neg (not_not_intro htype)]
  constructor
  · intro h
    cases hparse : Message.parse delivery.data with
    | error e => rw [hparse] at h; cases h
    | ok messages =>
      rw [hparse] at h
      cases messages with
      | nil => cases h
      | cons first others =>
        obtain rfl := Except.ok.inj h
        exact ⟨htype, others, hparse⟩
  · rintro ⟨-, others, hparse⟩
    rw [hparse]
    rfl

end RecordLayer
