import Mathlib.Tactic.Common
import RecordLayer.Proofs.Drafts

/-!
# Messages one after another

Any byte string is a row of complete messages and then a tail that is none
(`Message.exists_segments`).  A `Message.Segment` is such a message before
anything of its body is understood.

* `Message.parse_stream_append`: the messages of a row are read one by one, each
  from its own bytes, and then what follows them.
* `Message.parse_prefix_of_stream`: a byte string that is cut off is read up to
  the last message that is still complete.
* `Message.parse_by_segments` puts both together for any bytes that can be read.
-/

namespace RecordLayer.Message

/-! ## Segments -/

/-- A complete message as it stands in a byte string: its type, and a body whose
size fits the three bytes for it. -/
structure Segment where
  type : UInt8
  body : Bytes
  size_lt : body.length < 16777216

namespace Segment

/-- The bytes of a segment. -/
def bytes (segment : Segment) : Bytes := frame segment.type segment.body

/-- What a segment is understood as. -/
def read (segment : Segment) : Result Message := do
  let content ← readContent segment.type.toNat segment.body
  return { type := segment.type.toNat, size := segment.body.length, content }

/-- The bytes of segments, one after another. -/
def stream (segments : List Segment) : Bytes := (segments.map bytes).flatten

@[simp] theorem stream_cons (segment : Segment) (segments : List Segment) :
    stream (segment :: segments) = segment.bytes ++ stream segments := rfl

theorem length_bytes (segment : Segment) : segment.bytes.length = 4 + segment.body.length :=
  length_frame segment.type segment.body

/-- The four bytes in front of the body. -/
theorem exists_bytes_eq (segment : Segment) :
    ∃ n₁ n₂ n₃, segment.bytes = segment.type :: n₁ :: n₂ :: n₃ :: segment.body ∧
      Bytes.bigEndianValue [n₁, n₂, n₃] = segment.body.length := by
  obtain ⟨n₁, n₂, n₃, hbytes, hvalue⟩ := Bytes.exists_bigEndian_three segment.size_lt
  refine ⟨n₁, n₂, n₃, ?_, hvalue⟩
  rw [bytes, frame, Bytes.vector24, hbytes]
  rfl

end Segment

/-- A byte string is no complete message, or starts with one. -/
theorem incomplete_or_segment (bytes : Bytes) :
    Incomplete bytes ∨ ∃ (segment : Segment) (rest : Bytes), bytes = segment.bytes ++ rest := by
  unfold Incomplete
  split
  next type n₁ n₂ n₃ rest =>
    by_cases hshort : rest.length < Bytes.bigEndianValue [n₁, n₂, n₃]
    · exact Or.inl hshort
    right
    have hlt : Bytes.bigEndianValue [n₁, n₂, n₃] < Bytes.capacity 3 :=
      Bytes.bigEndianValue_lt [n₁, n₂, n₃]
    rw [Bytes.capacity_three] at hlt
    have hlength : (rest.take (Bytes.bigEndianValue [n₁, n₂, n₃])).length =
        Bytes.bigEndianValue [n₁, n₂, n₃] := by
      rw [List.length_take]
      omega
    refine ⟨⟨type, rest.take (Bytes.bigEndianValue [n₁, n₂, n₃]), ?_⟩,
      rest.drop (Bytes.bigEndianValue [n₁, n₂, n₃]), ?_⟩
    · rw [hlength]
      exact hlt
    · show _ = type :: (Bytes.bigEndian 3 (rest.take _).length ++ rest.take _) ++ rest.drop _
      rw [hlength, List.cons_append, List.append_assoc, List.take_append_drop]
      exact congrArg (fun size => type :: (size ++ rest))
        (Bytes.bigEndian_bigEndianValue [n₁, n₂, n₃]).symm
  next => exact Or.inl trivial

/-- Any byte string is a row of segments and a tail that is no complete message. -/
theorem exists_segments (bytes : Bytes) :
    ∃ (segments : List Segment) (tail : Bytes),
      bytes = Segment.stream segments ++ tail ∧ Incomplete tail := by
  induction hn : bytes.length using Nat.strongRecOn generalizing bytes with
  | ind n ih =>
    rcases incomplete_or_segment bytes with hincomplete | ⟨segment, rest, rfl⟩
    · exact ⟨[], bytes, rfl, hincomplete⟩
    · have hshorter : rest.length < n := by
        rw [← hn, List.length_append, segment.length_bytes]
        omega
      obtain ⟨segments, tail, hrest, htail⟩ := ih _ hshorter rest rfl
      refine ⟨segment :: segments, tail, ?_, htail⟩
      rw [Segment.stream_cons, List.append_assoc, ← hrest]

/-! ## Reading segment by segment -/

/-- The first message is read from its own bytes, and whatever follows it after that. -/
theorem parse_segment_append (segment : Segment) (more : Bytes) :
    parse (segment.bytes ++ more) = (do
      let message ← segment.read
      let later ← parse more
      return message :: later) := by
  unfold Segment.read
  cases hcontent : readContent segment.type.toNat segment.body with
  | ok content =>
    rw [Segment.bytes, parse, readAll_frame_append segment.size_lt hcontent, parse]
    unfold Reading.toResult
    dsimp only
    cases (readAll more).failure with
    | some cause => rfl
    | none => rfl
  | error cause =>
    obtain ⟨n₁, n₂, n₃, hbytes, hvalue⟩ := segment.exists_bytes_eq
    have henough : Bytes.hasAtLeast segment.body.length (segment.body ++ more) = true := by
      rw [Bytes.hasAtLeast_iff, List.length_append]
      omega
    have hread : readAll (segment.bytes ++ more) = { failure := some cause } := by
      rw [hbytes]
      show readAll (segment.type :: n₁ :: n₂ :: n₃ :: (segment.body ++ more)) = _
      rw [readAll]
      simp only [hvalue, henough, if_true, List.take_left, hcontent]
    rw [parse, hread]
    rfl

/-- The messages of a row are read one by one, and whatever follows them after that. -/
theorem parse_stream_append (segments : List Segment) (more : Bytes) :
    parse (Segment.stream segments ++ more) = (do
      let messages ← segments.mapM Segment.read
      let later ← parse more
      return messages ++ later) := by
  induction segments with
  | nil =>
    show parse more = (parse more >>= fun later => pure later)
    cases parse more with
    | error cause => rfl
    | ok later => rfl
  | cons segment segments ih =>
    rw [Segment.stream_cons, List.append_assoc, parse_segment_append, ih, List.mapM_cons]
    cases segment.read with
    | error cause => rfl
    | ok message =>
    cases segments.mapM Segment.read with
    | error cause => rfl
    | ok messages =>
    cases parse more with
    | error cause => rfl
    | ok later => rfl

/-- Nothing is read of what is no complete message. -/
theorem parse_of_incomplete {tail : Bytes} (h : Incomplete tail) : parse tail = .ok [] := by
  rw [parse, readAll_of_incomplete h]
  rfl

/-- The messages of a row in front of a tail are what can be read. -/
theorem parse_stream_append_incomplete (segments : List Segment) {tail : Bytes}
    (htail : Incomplete tail) :
    parse (Segment.stream segments ++ tail) = segments.mapM Segment.read := by
  rw [parse_stream_append, parse_of_incomplete htail]
  cases segments.mapM Segment.read with
  | error cause => rfl
  | ok messages =>
    show Except.ok (messages ++ []) = Except.ok messages
    rw [List.append_nil]

/-! ## What is cut off -/

/-- A byte string that is no complete message does not become one by cutting it off. -/
theorem Incomplete.of_prefix {front bytes : Bytes} (h : Incomplete bytes)
    (hfront : front <+: bytes) : Incomplete front := by
  obtain ⟨rest, rfl⟩ := hfront
  unfold Incomplete at h ⊢
  split
  next type n₁ n₂ n₃ body =>
    change (body ++ rest).length < Bytes.bigEndianValue [n₁, n₂, n₃] at h
    rw [List.length_append] at h
    omega
  next => trivial

/-- A segment that is cut off is no complete message. -/
theorem incomplete_of_shorter {segment : Segment} {front more : Bytes}
    (hfront : front <+: segment.bytes ++ more) (hshort : front.length < segment.bytes.length) :
    Incomplete front := by
  obtain ⟨rest, hrest⟩ := hfront
  obtain ⟨n₁, n₂, n₃, hbytes, hvalue⟩ := segment.exists_bytes_eq
  rw [segment.length_bytes] at hshort
  unfold Incomplete
  split
  next type m₁ m₂ m₃ body =>
    rw [hbytes] at hrest
    simp only [List.cons_append, List.cons.injEq] at hrest
    obtain ⟨-, h₁, h₂, h₃, -⟩ := hrest
    rw [h₁, h₂, h₃, hvalue]
    simp only [List.length_cons] at hshort
    omega
  next => trivial

/-- The leading messages that end within so many bytes. -/
def endingWithin : Nat → List Message → List Message
  | _, [] => []
  | room, message :: messages =>
    if 4 + message.size ≤ room then
      message :: endingWithin (room - (4 + message.size)) messages
    else []

/-- A segment that can be read is as large as its message says. -/
theorem Segment.length_of_read {segment : Segment} {message : Message}
    (h : segment.read = .ok message) : segment.bytes.length = 4 + message.size := by
  unfold read at h
  cases hcontent : readContent segment.type.toNat segment.body with
  | error cause => rw [hcontent] at h; cases h
  | ok content =>
    rw [hcontent] at h
    rw [← Except.ok.inj h, segment.length_bytes]

/-- Of a row of messages that can be read, a prefix shows those that end within it. -/
theorem parse_prefix_of_stream {segments : List Segment} {tail : Bytes} (htail : Incomplete tail)
    {messages : List Message} (h : segments.mapM Segment.read = .ok messages) {front : Bytes}
    (hfront : front <+: Segment.stream segments ++ tail) :
    parse front = .ok (endingWithin front.length messages) := by
  induction segments generalizing messages front with
  | nil =>
    obtain rfl := Except.ok.inj h
    exact parse_of_incomplete (htail.of_prefix hfront)
  | cons segment segments ih =>
    obtain ⟨message, later, hmessage, hlater, rfl⟩ := Result.exists_of_mapM_cons h
    have hlength := Segment.length_of_read hmessage
    rw [Segment.stream_cons, List.append_assoc] at hfront
    by_cases hshort : front.length < segment.bytes.length
    · rw [parse_of_incomplete (incomplete_of_shorter hfront hshort), endingWithin, if_neg (by omega)]
    · -- the prefix goes on behind the first message
      obtain ⟨rest, rfl⟩ : segment.bytes <+: front :=
        List.prefix_of_prefix_length_le (List.prefix_append _ _) hfront (by omega)
      have hrest := ih hlater ((List.prefix_append_right_inj segment.bytes).1 hfront)
      have hroom : (segment.bytes ++ rest).length - (4 + message.size) = rest.length := by
        rw [List.length_append, hlength]
        omega
      have hfits : 4 + message.size ≤ (segment.bytes ++ rest).length := by
        rw [List.length_append, hlength]
        omega
      rw [parse_segment_append, hmessage, hrest, endingWithin, if_pos hfits, hroom]
      rfl

/-! ## Any bytes that can be read -/

/-- A part of a byte string is a message as it was read: its type and the size of
its body stand in front, nothing is missing, and the content is that of the body. -/
structure Spells (part : Bytes) (message : Message) : Prop where
  type : part.head?.map UInt8.toNat = some message.type
  size : Bytes.bigEndianValue ((part.drop 1).take 3) = message.size
  length : part.length = 4 + message.size
  content : readContent message.type (part.drop 4) = .ok message.content

theorem Segment.spells_of_read {segment : Segment} {message : Message}
    (h : segment.read = .ok message) : Spells segment.bytes message := by
  have hlength := length_of_read h
  obtain ⟨n₁, n₂, n₃, hbytes, hvalue⟩ := segment.exists_bytes_eq
  unfold read at h
  cases hcontent : readContent segment.type.toNat segment.body with
  | error cause => rw [hcontent] at h; cases h
  | ok content =>
    rw [hcontent] at h
    obtain rfl := Except.ok.inj h
    rw [hbytes] at hlength ⊢
    exact ⟨rfl, hvalue, hlength, hcontent⟩

/-- The segments that were read one by one spell their messages. -/
theorem Segment.spells_of_mapM_read {segments : List Segment} {messages : List Message}
    (h : segments.mapM read = .ok messages) :
    List.Forall₂ Spells (segments.map bytes) messages := by
  induction segments generalizing messages with
  | nil =>
    obtain rfl := Except.ok.inj h
    exact .nil
  | cons segment segments ih =>
    obtain ⟨message, later, hmessage, hlater, rfl⟩ := Result.exists_of_mapM_cons h
    exact .cons (spells_of_read hmessage) (ih hlater)

/-- How many bytes a row of messages takes, by the sizes of their bodies. -/
def extent : List Message → Nat
  | [] => 0
  | message :: messages => 4 + message.size + extent messages

/-- Parts that spell messages are as large as these say. -/
theorem length_flatten_of_spells {parts : List Bytes} {messages : List Message}
    (h : List.Forall₂ Spells parts messages) : parts.flatten.length = extent messages := by
  induction h with
  | nil => rfl
  | cons hspells _ ih => rw [List.flatten_cons, List.length_append, hspells.length, ih, extent]

/-- What can be read is read message by message.

The bytes are those of the messages, in order, and a rest that is no complete
message.  Any prefix of the bytes can be read as well, and shows the messages
that end within it.  And if nothing is left over, any more bytes behind them are
read as they would be alone. -/
theorem parse_by_segments {bytes : Bytes} {messages : List Message}
    (h : parse bytes = .ok messages) :
    (∃ (parts : List Bytes) (rest : Bytes), bytes = parts.flatten ++ rest ∧ Incomplete rest ∧
      List.Forall₂ Spells parts messages) ∧
    (∀ front, front <+: bytes → parse front = .ok (endingWithin front.length messages)) ∧
    (extent messages = bytes.length →
      ∀ more, parse (bytes ++ more) = (parse more).map fun later => messages ++ later) := by
  obtain ⟨segments, tail, rfl, htail⟩ := exists_segments bytes
  have hread : segments.mapM Segment.read = .ok messages := by
    rw [← parse_stream_append_incomplete segments htail]
    exact h
  have hspells := Segment.spells_of_mapM_read hread
  refine ⟨⟨_, tail, rfl, htail, hspells⟩, ?_, ?_⟩
  · intro front hfront
    exact parse_prefix_of_stream htail hread hfront
  · intro hextent more
    have hlength : (Segment.stream segments).length = extent messages :=
      length_flatten_of_spells hspells
    have hnil : tail = [] := by
      rw [List.length_append] at hextent
      apply List.eq_nil_of_length_eq_zero
      omega
    rw [hnil, List.append_nil, parse_stream_append, hread]
    cases parse more with
    | error cause => rfl
    | ok later => rfl

/-- A Finished and a message of an unknown type, cut off in the second one, and
with a ServerHello behind them that cannot be read. -/
theorem parse_by_segments_of_two_messages :
    let finished : Message := { type := 20, size := 2, content := .finished [8, 9] }
    let unknown : Message := { type := 99, size := 1, content := .plain }
    let bytes : Bytes := [20, 0, 0, 2, 8, 9, 99, 0, 0, 1, 7]
    let broken : Bytes := 2 :: 0 :: 0 :: 35 :: List.replicate 35 0
    parse bytes = .ok [finished, unknown] ∧
      parse [20, 0, 0, 2, 8, 9, 99, 0, 0, 1] = .ok [finished] ∧
      parse (bytes ++ [20, 0, 0, 0]) =
        .ok [finished, unknown, { type := 20, size := 0, content := .finished [] }] ∧
      parse broken = .error .badField ∧ parse (bytes ++ broken) = .error .badField := by
  intro finished unknown bytes broken
  have h : parse bytes = .ok [finished, unknown] := by decide +kernel
  have hempty : parse [20, 0, 0, 0] =
      .ok [{ type := 20, size := 0, content := .finished [] }] := by decide +kernel
  have hbroken : parse broken = .error .badField := by decide +kernel
  obtain ⟨-, hprefix, hmore⟩ := parse_by_segments h
  have hwhole := hmore rfl
  refine ⟨h, hprefix _ (by decide), ?_, hbroken, ?_⟩
  · rw [hwhole, hempty]
    rfl
  · rw [hwhole, hbroken]
    rfl

end RecordLayer.Message
