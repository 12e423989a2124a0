import Mathlib.Tactic.Common
import RecordLayer.Proofs.Segments

/-!
# Hello messages that overrun

The body of a hello message announces sizes: that of the session id, and in a
ClientHello that of the list of suites.  A body of at least 35 bytes overruns if
it ends before what these sizes say has to be there.  `Segment.overrun?` counts
this out on the places of the body.

* `failure?_readServerHello` and `failure?_readClientHello`: the reader of a
  hello fails exactly with its overrun.
* `Segment.failure?_read`: no other message fails, and nothing else in a hello.
* `parse_fails_for_first_overrun`: a byte string cannot be read exactly if one of
  its complete messages overruns, and the first of these says why.
-/

namespace RecordLayer

/-! ## Failures of computations -/

namespace Result

variable {α β : Type}

/-- Why a computation failed, if it did. -/
def failure? (result : Result α) : Option Error :=
  match result with
  | .error cause => some cause
  | .ok _ => none

theorem failure?_eq_some_iff {result : Result α} {cause : Error} :
    failure? result = some cause ↔ result = .error cause := by
  cases result with
  | error e => simp [failure?]
  | ok a => simp [failure?]

/-- A result that is only dressed up fails as before. -/
theorem failure?_bind_pure (result : Result α) (f : α → β) :
    failure? (result >>= fun a => pure (f a)) = failure? result := by
  cases result with
  | error cause => rfl
  | ok a => rfl

/-- A list is turned into another one by one up to the first failure. -/
theorem failure?_mapM (f : α → Result β) (list : List α) :
    failure? (list.mapM f) = list.findSome? fun a => failure? (f a) := by
  induction list with
  | nil => rfl
  | cons a list ih =>
    rw [List.mapM_cons, List.findSome?_cons, ← ih]
    cases f a with
    | error cause => rfl
    | ok b => exact failure?_bind_pure (list.mapM f) fun later => b :: later

end Result

open Result

namespace Message

/-! ## What the sizes in a hello message ask for -/

/-- The place behind the session id of a hello message. -/
def helloPlace (body : Bytes) : Nat := 35 + (body.getD 34 0).toNat

/-- What a ServerHello lacks: its suite has to be there. -/
def serverOverrun? (body : Bytes) : Option Error :=
  if body.length < helloPlace body + 2 then some .badField else none

/-- What a ClientHello lacks: the size of the list of suites has to be there, then
the list, rounded up to whole suites, and then a byte behind the list as it was
announced. -/
def clientOverrun? (body : Bytes) : Option Error :=
  let place := helloPlace body
  let size := Bytes.bigEndianValue ((body.drop place).take 2)
  if body.length < place + 2 then some .badField
  else if body.length < place + 2 + 2 * ((size + 1) / 2) then some .badField
  else if body.length ≤ place + 2 + size then some .byteMissing
  else none

/-- What a message lacks, if it is a hello of at least 35 bytes and lacks anything. -/
def Segment.overrun? (segment : Segment) : Option Error :=
  if segment.body.length < 35 then none
  else if segment.type = 1 then clientOverrun? segment.body
  else if segment.type = 2 then serverOverrun? segment.body
  else none

/-! ## What the readers of a hello message fail with -/

/-- Behind the session id stands what is left from its place on. -/
theorem helloParts_eq (body : Bytes) :
    helloParts body = ((body.drop 2).take 32, body.drop (helloPlace body)) := by
  have hbyte : (body.drop 34).headD 0 = body.getD 34 0 := by
    rw [List.headD_eq_head?_getD, List.head?_drop, List.getD_eq_getElem?_getD]
  unfold helloParts helloPlace
  rw [hbyte]

/-- A list of numbers is there exactly if its bytes are. -/
theorem failure?_wordList (count : Nat) (bytes : Bytes) :
    failure? (wordList count bytes) =
      if bytes.length < 2 * count then some .badField else none := by
  induction count generalizing bytes with
  | zero => rw [if_neg (Nat.not_lt_zero _)]; rfl
  | succ count ih =>
    match bytes with
    | [] => rw [if_pos (by simp)]; rfl
    | [_] => rw [if_pos (by simp only [List.length_cons, List.length_nil]; omega)]; rfl
    | high :: low :: rest =>
      have hsize : (high :: low :: rest).length < 2 * (count + 1) ↔ rest.length < 2 * count := by
        simp only [List.length_cons]
        omega
      have hrest : failure? (wordList (count + 1) (high :: low :: rest)) =
          failure? (wordList count rest) :=
        failure?_bind_pure (wordList count rest) _
      rw [hrest, ih]
      exact if_congr hsize.symm rfl rfl

theorem failure?_readServerHello (body : Bytes) :
    failure? (readServerHello body) = serverOverrun? body := by
  have hlength : (body.drop (helloPlace body)).length < 2 ↔
      body.length < helloPlace body + 2 := by
    rw [List.length_drop]
    omega
  have hword : failure? (readServerHello body) =
      failure? (Bytes.word (body.drop (helloPlace body))) := by
    unfold readServerHello
    rw [helloParts_eq]
    exact failure?_bind_pure (Bytes.word (body.drop (helloPlace body))) _
  rw [hword, Bytes.word_eq, serverOverrun?]
  by_cases hshort : body.length < helloPlace body + 2
  · rw [if_pos (hlength.2 hshort), if_pos hshort]
    rfl
  · rw [if_neg (mt hlength.1 hshort), if_neg hshort]
    rfl

theorem failure?_readClientHello (body : Bytes) :
    failure? (readClientHello body) = clientOverrun? body := by
  unfold readClientHello clientOverrun?
  rw [helloParts_eq]
  dsimp only
  rw [Bytes.word_eq]
  generalize hplace : helloPlace body = place
  generalize hsize : Bytes.bigEndianValue ((body.drop place).take 2) = size
  by_cases hword : body.length < place + 2
  · rw [if_pos (by rw [List.length_drop]; omega), if_pos hword]
    rfl
  rw [if_neg (by rw [List.length_drop]; omega), if_neg hword, Result.ok_bind]
  have hlist := failure?_wordList ((size + 1) / 2) ((body.drop place).drop 2)
  by_cases hsuites : body.length < place + 2 + 2 * ((size + 1) / 2)
  · rw [if_pos (by rw [List.length_drop, List.length_drop]; omega)] at hlist
    rw [if_pos hsuites, failure?_eq_some_iff.1 hlist]
    rfl
  rw [if_neg (by rw [List.length_drop, List.length_drop]; omega)] at hlist
  rw [if_neg hsuites]
  cases hwords : wordList ((size + 1) / 2) ((body.drop place).drop 2) with
  | error cause => rw [hwords] at hlist; cases hlist
  | ok suites =>
    rw [Result.ok_bind]
    by_cases hbehind : body.length ≤ place + 2 + size
    · have hnil : (body.drop place).drop (2 + size) = [] := by
        rw [List.drop_drop]
        exact List.drop_eq_nil_of_le (by omega)
      rw [hnil, if_pos hbehind]
      rfl
    · have hlength : ((body.drop place).drop (2 + size)).length = body.length - (place + 2 + size) := by
        rw [List.length_drop, List.length_drop]
        omega
      rw [if_neg hbehind]
      cases hrest : (body.drop place).drop (2 + size) with
      | nil =>
        rw [hrest, List.length_nil] at hlength
        omega
      | cons compressionSize rest => rfl

/-! ## What reading fails with -/

/-- A message fails exactly if it overruns. -/
theorem Segment.failure?_read (segment : Segment) : failure? segment.read = segment.overrun? := by
  have hread : failure? segment.read =
      failure? (readContent segment.type.toNat segment.body) :=
    failure?_bind_pure (readContent segment.type.toNat segment.body) _
  have htype : ∀ type : UInt8, segment.type.toNat = type.toNat ↔ segment.type = type :=
    fun type => UInt8.toNat_inj
  have hclient : segment.type.toNat = clientHelloType ↔ segment.type = 1 := htype 1
  have hserver : segment.type.toNat = serverHelloType ↔ segment.type = 2 := htype 2
  rw [hread, overrun?, readContent]
  by_cases hshort : segment.body.length < 35
  · have hlong : Bytes.hasAtLeast 35 segment.body = false := by
      rw [Bool.eq_false_iff, ne_eq, Bytes.hasAtLeast_iff]
      omega
    rw [if_pos hshort, hlong, Bool.and_false, Bool.and_false, if_neg Bool.false_ne_true,
      if_neg Bool.false_ne_true]
    split_ifs
    · cases helloExtensions .offer segment.body with
      | none => rfl
      | some extensions => rfl
    · rfl
    · rfl
  have hlong : Bytes.hasAtLeast 35 segment.body = true :=
    (Bytes.hasAtLeast_iff 35 segment.body).2 (Nat.not_lt.1 hshort)
  rw [if_neg hshort, hlong, Bool.and_true, Bool.and_true]
  simp only [decide_eq_true_eq, hclient, hserver]
  split_ifs with h1 h2 h8 h20
  · exact failure?_readClientHello segment.body
  · exact failure?_readServerHello segment.body
  · cases helloExtensions .offer segment.body with
    | none => rfl
    | some extensions => rfl
  · rfl
  · rfl

/-- Reading a byte string fails exactly for the first of its complete messages
that overruns, and with what that one lacks.

Any byte string has complete messages, one after another, and a tail that is
none.  A hello of at least 35 bytes overruns if it ends before the sizes in it
allow; nothing else in a hello, no message of another type, and nothing in the
tail makes reading fail. -/
theorem parse_fails_for_first_overrun (bytes : Bytes) :
    (∃ (segments : List Segment) (tail : Bytes),
      bytes = Segment.stream segments ++ tail ∧ Incomplete tail) ∧
    ∀ (segments : List Segment) (tail : Bytes),
      bytes = Segment.stream segments ++ tail → Incomplete tail →
      ∀ cause, parse bytes = .error cause ↔ segments.findSome? Segment.overrun? = some cause := by
  refine ⟨exists_segments bytes, ?_⟩
  intro segments tail hbytes htail cause
  have hsame : (fun segment : Segment => failure? segment.read) = Segment.overrun? := by
    funext segment
    exact segment.failure?_read
  rw [hbytes, parse_stream_append_incomplete segments htail, ← failure?_eq_some_iff,
    failure?_mapM, hsame]

/-- A ServerHello of 34 bytes does not count, a ClientHello that ends with its
suites lacks a byte, and a ServerHello that ends with its session id lacks its
suite.  What comes first decides. -/
theorem parse_fails_for_first_overrun_of_three_hellos :
    let short : Segment := ⟨2, List.replicate 34 0, by decide⟩
    let ending : Segment := ⟨1, List.replicate 35 0 ++ [0, 2, 0x13, 0x01], by decide⟩
    let broken : Segment := ⟨2, List.replicate 35 0, by decide⟩
    let tail : Bytes := [1, 0, 0, 9]
    Incomplete tail ∧
      parse (Segment.stream [short, ending, broken] ++ tail) = .error .byteMissing ∧
      parse (Segment.stream [short, broken, ending] ++ tail) = .error .badField := by
  intro short ending broken tail
  have htail : Incomplete tail := by
    show 0 < Bytes.bigEndianValue [0, 0, 9]
    decide
  obtain ⟨-, hending⟩ :=
    parse_fails_for_first_overrun (Segment.stream [short, ending, broken] ++ tail)
  obtain ⟨-, hbroken⟩ :=
    parse_fails_for_first_overrun (Segment.stream [short, broken, ending] ++ tail)
  exact ⟨htail, (hending _ tail rfl htail .byteMissing).2 (by decide),
    (hbroken _ tail rfl htail .badField).2 (by decide)⟩

end Message

end RecordLayer
