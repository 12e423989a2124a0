import Mathlib.Tactic.Common
import RecordLayer.Proofs.Queue

/-!
# Reading from a wire that may fail

A wire may fail in the middle of a record, and the next read then starts in
the middle of that record too.  `Transport.Course` says what a read may come to
on such a wire: the stream fails before the next record is complete, or the
record is judged, or it is dropped and the read goes on behind it.

* `Connection.readRecord_course`: every read of a connection takes one of
  these courses.
* `Transport.Course.taken_whole`, `Transport.Course.drops_of_dropped`,
  `Transport.Course.counters`, `Transport.Course.refuses`: what the notes of a
  course say about the bytes, about what is dropped and about the counters.
-/

namespace RecordLayer

/-! ## Courses of a read -/

/-- Whether a failure comes from the stream and not from a record. -/
def Error.Interrupts : Error → Prop
  | .bodyInterrupted | .stream _ => True
  | _ => False

namespace Transport

/-- What a read of a byte string may come to if the stream may fail at any
point of it. -/
inductive Course : Transport → Bytes → Reading → Prop where
  /-- The stream fails before the next record is complete. -/
  | fails {transport : Transport} {part : Bytes} (rest : Bytes) {cause : Error}
    (hpart : ∀ header body more, Front.of part ≠ .whole header body more)
    (hcause : cause.Interrupts) :
    Course transport (part ++ rest) { result := .error cause, transport, unread := rest }
  /-- The next record is not dropped. -/
  | judges {transport : Transport} {bytes body rest : Bytes} {header : Header}
    (hfront : Front.of bytes = .whole header body rest) (hkeeps : ¬transport.Drops header) :
    Course transport bytes (transport.judge header body rest)
  /-- The next record is dropped. -/
  | drops {transport : Transport} {bytes body rest : Bytes} {header : Header} {later : Reading}
    (hfront : Front.of bytes = .whole header body rest) (hdrops : transport.Drops header)
    (hlater : Course { transport with skipped := transport.skipped + 1 } rest later) :
    Course transport bytes { later with notes := .skipped header :: later.notes }

end Transport

/-! ## What the notes of a course say -/

/-- The header of a record that was dropped, in a note about it. -/
def Note.dropped? : Note → Option Header
  | .skipped header => some header
  | _ => none

/-- The header of a record that was found valid, in a note about it. -/
def Note.validated? : Note → Option Header
  | .received header => some header
  | _ => none

namespace Transport

variable {transport : Transport} {bytes : Bytes} {reading : Reading}

/-- What is judged is noted as taken and never as dropped. -/
theorem notes_judge (transport : Transport) (header : Header) (body rest : Bytes) :
    (transport.judge header body rest).notes.filterMap Note.taken? = [header] ∧
      (transport.judge header body rest).notes.filterMap Note.dropped? = [] := by
  unfold judge
  split
  · exact ⟨rfl, rfl⟩
  · exact ⟨rfl, rfl⟩

/-- The records that are noted are those that were taken whole, in order.  Of
the record after them a part may be lost, and then the stream has failed. -/
theorem Course.taken_whole (course : Course transport bytes reading) :
    ∃ records part, (∀ record ∈ records, record.Fits) ∧
      bytes = Record.stream records ++ part ++ reading.unread ∧
      reading.notes.filterMap Note.taken? = records.map Record.header ∧
      (part = [] ∨ ∃ cause, reading.result = .error cause ∧ cause.Interrupts) := by
  induction course with
  | @fails transport part rest cause hpart hcause =>
    exact ⟨[], part, by simp, rfl, rfl, Or.inr ⟨cause, rfl, hcause⟩⟩
  | @judges transport bytes body rest header hfront hkeeps =>
    obtain ⟨fits, hheader, hbytes⟩ := Front.eq_bytes_append_of_whole hfront (List.nil_append body).symm
    refine ⟨_, [], List.forall_mem_singleton.2 fits, ?_, ?_, Or.inl rfl⟩
    · rw [judge_unread, Record.stream_cons, Record.stream_nil, List.append_nil, List.append_nil]
      exact hbytes
    · rw [(notes_judge transport header body rest).1, List.map_singleton, hheader]
  | @drops transport bytes body rest header later hfront hdrops hlater ih =>
    obtain ⟨records, part, hfits, hrest, hheaders, hpart⟩ := ih
    obtain ⟨fits, hheader, hbytes⟩ := Front.eq_bytes_append_of_whole hfront (List.nil_append body).symm
    refine ⟨_ :: records, part, List.forall_mem_cons.2 ⟨fits, hfits⟩, ?_, ?_, hpart⟩
    · rw [Record.stream_cons, List.append_assoc, List.append_assoc, ← List.append_assoc _ part,
        ← hrest]
      exact hbytes
    · rw [List.map_cons, hheader, ← hheaders]
      rfl

/-- Whatever is dropped is early data, and is dropped by a transport that skips
it and reads at another level. -/
theorem Course.drops_of_dropped (course : Course transport bytes reading) {header : Header}
    (h : header ∈ reading.notes.filterMap Note.dropped?) : transport.Drops header := by
  induction course with
  | fails rest hpart hcause => cases h
  | @judges transport bytes body rest header' hfront hkeeps =>
    rw [(notes_judge transport header' body rest).2] at h
    cases h
  | @drops transport bytes body rest header' later hfront hdrops hlater ih =>
    rcases List.mem_cons.1 h with rfl | h
    · exact hdrops
    · exact ih h

/-- What is dropped comes first, and at most one record after it is judged. -/
theorem Course.dropped_first (course : Course transport bytes reading) :
    ∃ last : Option Header,
      reading.notes.filterMap Note.taken? =
        reading.notes.filterMap Note.dropped? ++ last.toList ∧
      (reading.notes.filterMap Note.validated?).Sublist last.toList := by
  induction course with
  | fails rest hpart hcause => exact ⟨none, rfl, List.Sublist.refl _⟩
  | @judges transport bytes body rest header hfront hkeeps =>
    refine ⟨some header, ?_, ?_⟩
    · rw [(notes_judge transport header body rest).1, (notes_judge transport header body rest).2]
      rfl
    · unfold judge
      split
      · exact List.nil_sublist _
      · exact List.Sublist.refl _
  | @drops transport bytes body rest header later hfront hdrops hlater ih =>
    obtain ⟨last, htaken, hvalidated⟩ := ih
    refine ⟨last, ?_, hvalidated⟩
    show header :: later.notes.filterMap Note.taken? =
      header :: later.notes.filterMap Note.dropped? ++ last.toList
    rw [htaken, List.cons_append]

/-- The two counters of a reader go by what is noted, and a valid record ends
the skipping of early data. -/
theorem Course.counters (course : Course transport bytes reading) :
    reading.transport.skipped =
        transport.skipped + (reading.notes.filterMap Note.dropped?).length ∧
      reading.transport.received =
        transport.received + (reading.notes.filterMap Note.validated?).length ∧
      reading.transport.skipping =
        (transport.skipping && (reading.notes.filterMap Note.validated?).isEmpty) := by
  induction course with
  | @fails transport part rest cause hpart hcause =>
    exact ⟨rfl, rfl, (Bool.and_true _).symm⟩
  | @judges transport bytes body rest header hfront hkeeps =>
    unfold judge
    split
    · exact ⟨rfl, rfl, (Bool.and_true _).symm⟩
    · exact ⟨rfl, rfl, (Bool.and_false _).symm⟩
  | @drops transport bytes body rest header later hfront hdrops hlater ih =>
    obtain ⟨hskipped, hreceived, hskipping⟩ := ih
    refine ⟨?_, hreceived, hskipping⟩
    dsimp only at hskipped
    show later.transport.skipped =
      transport.skipped + ((later.notes.filterMap Note.dropped?).length + 1)
    rw [hskipped]
    omega

/-- Without skipping, early data is refused at any other read level. -/
theorem Course.refuses (course : Course transport bytes reading)
    (hskipping : transport.skipping = false) (hread : transport.read.level ≠ 1) {header : Header}
    (h : header ∈ reading.notes.filterMap Note.taken?) (hlevel : header.level = 1) :
    reading.result = .error (.levelMismatch 1 transport.read.level) := by
  cases course with
  | fails rest hpart hcause => cases h
  | @judges _ _ body rest header' hfront hkeeps =>
    rw [(notes_judge transport header' body rest).1, List.mem_singleton] at h
    subst h
    have hrefusal : transport.read.refusal? header body =
        some (.levelMismatch 1 transport.read.level) := by
      rw [Epoch.refusal?, hlevel, if_pos (Ne.symm hread)]
    simp only [judge, hrefusal]
  | drops hfront hdrops hlater =>
    rw [hdrops.1] at hskipping
    cases hskipping

/-- A whole record in front of the bytes is taken, unless the stream fails. -/
theorem mem_taken_of_whole (ending : StreamError) {body rest : Bytes} {header : Header}
    (h : Front.of bytes = .whole header body rest) :
    header ∈ (transport.reading ending bytes).notes.filterMap Note.taken? := by
  rw [reading_whole h]
  split
  · exact List.mem_cons_self
  · rw [(notes_judge transport header body rest).1]
    exact List.mem_cons_self

end Transport

/-! ## The bytes of the record under way -/

namespace Intake

/-- The part under way is what `taken` makes up: a piece of a header, or a
header and a piece of the body that it announces. -/
inductive Holds : Intake → Bytes → Prop where
  | header {taken : Bytes} (hlt : taken.length < 8) :
    Holds { arrived := taken.reverse, missing := 8 - taken.length } taken
  | body {header : Header} {eight piece : Bytes} (hdecode : Header.decode eight = .ok header)
    (hlt : piece.length < header.length.toNat) :
    Holds
      { header := some header
        arrived := piece.reverse
        missing := header.length.toNat - piece.length }
      (eight ++ piece)

theorem holds_nil : Holds {} [] :=
  @Holds.header [] (by decide)

/-- What is under way is not a whole record. -/
theorem Holds.front_ne_whole {intake : Intake} {taken : Bytes} (holds : intake.Holds taken)
    (header : Header) (body more : Bytes) : Front.of taken ≠ .whole header body more := by
  intro h
  cases holds with
  | header hlt =>
    rw [Front.of_eq_noHeader hlt] at h
    cases h
  | body hdecode hlt =>
    rw [Front.of_append hdecode, if_neg (by omega)] at h
    cases h

/-- The failure of a stream is an interruption, whatever is under way. -/
theorem interrupts_interrupted (intake : Intake) (error : StreamError) :
    (intake.interrupted error).Interrupts := by
  unfold interrupted
  split
  · exact trivial
  · exact trivial

/-- Some of the missing bytes are added to what is under way. -/
theorem Holds.grown {intake : Intake} {taken chunk : Bytes} (holds : intake.Holds taken)
    (hlt : chunk.length < intake.missing) : (intake.grown chunk).Holds (taken ++ chunk) := by
  cases holds with
  | header hshort =>
    dsimp only at hlt
    have holds' : Holds _ (taken ++ chunk) := .header (by rw [List.length_append]; omega)
    rw [List.length_append, ← Nat.sub_sub] at holds'
    simpa [Intake.grown, List.reverseAux_eq] using holds'
  | @body header eight piece hdecode hshort =>
    dsimp only at hlt
    have holds' : Holds _ (eight ++ (piece ++ chunk)) :=
      .body hdecode (by rw [List.length_append]; omega)
    rw [List.length_append, ← Nat.sub_sub, ← List.append_assoc] at holds'
    simpa [Intake.grown, List.reverseAux_eq] using holds'

/-- All of the missing bytes make what is under way a header, and the body
after it is under way then, or a whole record. -/
theorem Holds.complete {intake : Intake} {taken chunk : Bytes} (holds : intake.Holds taken)
    (heq : chunk.length = intake.missing) :
    (∃ intake', intake.complete chunk = .ok (.awaiting intake') ∧
      intake'.Holds (taken ++ chunk)) ∨
    ∃ header body, intake.complete chunk = .ok (.whole header body) ∧
      ∀ rest, Front.of (taken ++ chunk ++ rest) = .whole header body rest := by
  cases holds with
  | header hshort =>
    dsimp only at heq
    obtain ⟨header, hdecode, hnonneg⟩ :=
      @Front.exists_header (taken ++ chunk) (by rw [List.length_append]; omega)
    simp only [Intake.complete, List.reverse_reverse, hdecode, Except.map, startBody]
    by_cases hzero : header.length ≤ 0
    · refine Or.inr ⟨header, [], by rw [if_pos hzero], fun rest => ?_⟩
      rw [Front.of_append hdecode, if_pos (by omega), Int.toNat_of_nonpos hzero]
      rfl
    · refine Or.inl ⟨_, by rw [if_neg hzero], ?_⟩
      have holds' := @Holds.body header _ [] hdecode (by rw [List.length_nil]; omega)
      rw [List.append_nil] at holds'
      exact holds'
  | @body header eight piece hdecode hshort =>
    dsimp only at heq
    have hsize : (piece ++ chunk).length = header.length.toNat := by
      rw [List.length_append]
      omega
    refine Or.inr ⟨header, piece ++ chunk, ?_, fun rest => ?_⟩
    · simp only [Intake.complete, List.reverse_reverse]
    · rw [List.append_assoc eight, List.append_assoc eight, Front.of_append hdecode,
        if_pos (by rw [List.length_append]; omega), ← hsize, List.take_left, List.drop_left]

end Intake

/-! ## One read from the wire -/

namespace Wire

/-- A read that fails leaves the queue as it is. -/
theorem queue_receive_of_error {wire wire' : Wire} {count : Nat} {error : StreamError}
    (h : wire.receive count = (.error error, wire')) :
    wire'.incoming.queue = wire.incoming.queue := by
  unfold receive at h
  split at h
  · obtain ⟨-, rfl⟩ := Prod.mk.inj h
    rfl
  · split at h
    · obtain ⟨-, rfl⟩ := Prod.mk.inj h
      rfl
    · dsimp only at h
      split at h
      · obtain ⟨-, rfl⟩ := Prod.mk.inj h
        rfl
      · cases h

/-- No more bytes are allowed than are asked for. -/
theorem allowance_le (wire : Wire) (count : Nat) : wire.allowance count ≤ count := by
  unfold allowance
  split
  · exact Nat.min_le_left _ _
  · exact Nat.min_le_left _ _
  · exact Nat.le_refl _

/-- A read takes no more than it asks for. -/
theorem length_receive_le {wire wire' : Wire} {count : Nat} {chunk : Bytes}
    (h : wire.receive count = (.ok chunk, wire')) : chunk.length ≤ count := by
  unfold receive at h
  split at h
  · cases h
  · split at h
    · cases h
    · dsimp only at h
      split at h
      · cases h
      · simp only [List.splitAt_eq, Prod.mk.injEq, Except.ok.injEq] at h
        obtain ⟨rfl, -⟩ := h
        rw [List.length_take]
        exact Nat.le_trans (Nat.min_le_left _ _) (allowance_le _ _)

end Wire

/-! ## Every read takes a course -/

namespace Connection

/-- An outcome is what a reading says, after the notes `before`. -/
structure ComesTo (before : List Note) (reading : Transport.Reading)
    (outcome : Outcome Connection Delivery) : Prop where
  result : outcome.result = reading.result
  transport : outcome.state.transport = reading.transport
  unread : outcome.state.wire.incoming.queue = reading.unread
  notes : outcome.notes = before ++ reading.notes

/-- A read that gets no bytes is interrupted. -/
theorem readOn_of_nothing {intake : Intake} {connection : Connection}
    {chunk : Except StreamError Bytes} {wire : Wire} (before : List Note)
    (hreceive : connection.wire.receive intake.missing = (chunk, wire))
    (hnothing : ∀ bytes, chunk = .ok bytes → bytes = []) :
    ∃ error, readOn intake before connection =
      { result := .error (intake.interrupted error)
        state := { connection with wire }
        notes := before } := by
  rw [readOn_eq, receive, hreceive]
  cases chunk with
  | error error =>
    refine ⟨error, ?_⟩
    simp [onTransport_apply, Transport.takeIn]
  | ok bytes =>
    obtain rfl := hnothing bytes rfl
    refine ⟨.ended, ?_⟩
    simp [onTransport_apply, Transport.takeIn]

/-- A read that goes on from any part of a record takes a course. -/
theorem readOn_course {intake : Intake} {taken : Bytes} (holds : intake.Holds taken)
    (before : List Note) (connection : Connection) :
    ∃ reading, Transport.Course connection.transport
        (taken ++ connection.wire.incoming.queue) reading ∧
      ComesTo before reading (readOn intake before connection) := by
  -- induction on the bytes that are there: whatever keeps a read going takes some
  induction hn : connection.wire.incoming.queue.length using Nat.strongRecOn
    generalizing intake taken before connection with
  | ind n ih =>
    subst hn
    cases hreceive : connection.wire.receive intake.missing with
    | mk chunk wire =>
    by_cases hnothing : ∀ bytes, chunk = .ok bytes → bytes = []
    case pos =>
      obtain ⟨error, hread⟩ := readOn_of_nothing before hreceive hnothing
      have hqueue : wire.incoming.queue = connection.wire.incoming.queue := by
        cases chunk with
        | error error => exact Wire.queue_receive_of_error hreceive
        | ok bytes =>
          have hnil := hnothing bytes rfl
          have hsplit := Wire.receive_queue hreceive
          rw [hnil] at hsplit
          exact hsplit
      refine ⟨_, .fails _ holds.front_ne_whole (intake.interrupts_interrupted error), ?_⟩
      rw [hread]
      exact ⟨rfl, rfl, hqueue, (List.append_nil before).symm⟩
    case neg =>
    push Not at hnothing
    obtain ⟨chunk, rfl, hne⟩ := hnothing
    have hle := Wire.length_receive_le hreceive
    have hqueue := Wire.receive_queue hreceive
    have hshorter : wire.incoming.queue.length < connection.wire.incoming.queue.length := by
      have hpos := List.length_pos_iff.2 hne
      rw [← hqueue, List.length_append]
      omega
    rw [← hqueue, ← List.append_assoc]
    rcases Nat.lt_or_eq_of_le hle with hlt | heq
    · rw [readOn_of_lt hreceive hne hlt]
      exact ih _ hshorter (holds.grown hlt) before { connection with wire } rfl
    rw [readOn_of_le hreceive hne (Nat.le_of_eq heq.symm)]
    rcases holds.complete heq with ⟨intake', hcomplete, holds'⟩ | ⟨header, body, hcomplete, hfront⟩
    · rw [hcomplete]
      exact ih _ hshorter holds' before { connection with wire } rfl
    -- the record is there
    rw [hcomplete]
    by_cases hdrops : connection.transport.Drops header
    · obtain ⟨reading, hcourse, hcomes⟩ :=
        ih _ hshorter Intake.holds_nil (before ++ [.skipped header])
          { connection with
            transport := { connection.transport with skipped := connection.transport.skipped + 1 }
            wire } rfl
      refine ⟨_, .drops (hfront _) hdrops hcourse, ?_⟩
      simp only [onArrival, onTransport_apply, Transport.accept_of_drops hdrops]
      refine ⟨hcomes.result, hcomes.transport, hcomes.unread, ?_⟩
      rw [hcomes.notes, List.append_assoc]
      rfl
    · refine ⟨_, .judges (hfront _) hdrops, ?_⟩
      simp only [onArrival, onTransport_apply,
        Transport.accept_of_not_drops wire.incoming.queue hdrops]
      have hunread := connection.transport.judge_unread header body wire.incoming.queue
      cases hresult : (connection.transport.judge header body wire.incoming.queue).result with
      | error cause => exact ⟨hresult.symm, rfl, hunread.symm, rfl⟩
      | ok delivery => exact ⟨hresult.symm, rfl, hunread.symm, rfl⟩

/-- Every read takes a course through the bytes that are there. -/
theorem readRecord_course (connection : Connection) :
    ∃ reading,
      Transport.Course connection.transport connection.wire.incoming.queue reading ∧
      ComesTo [] reading (readRecord connection) :=
  readOn_course Intake.holds_nil [] connection

end Connection

end RecordLayer
