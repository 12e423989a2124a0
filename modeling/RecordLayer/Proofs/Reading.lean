import Mathlib.Tactic.Common
import RecordLayer.Proofs.Framing
import RecordLayer.Proofs.Gathering

/-!
# What a read comes to

`Transport.reading` is a read of a whole byte string at once: records of
early data are dropped from its front as long as the transport skips them,
and the first record after them, or the lack of one, decides the result.  It
knows nothing of pieces, of parts under way or of a wire.

`Connection.readRecord_eq_reading` says that a connection reads exactly so,
whatever the pieces are in which the bytes come.
-/

namespace RecordLayer

/-! ## A read of a whole byte string -/

/-- Why an epoch refuses a record, if it does.  The first of the four reasons
that applies is given. -/
def Epoch.refusal? (epoch : Epoch) (header : Header) (body : Bytes) : Option Error :=
  if header.level ≠ epoch.level then some (.levelMismatch header.level epoch.level)
  else if header.suite ≠ epoch.suite then some (.suiteMismatch header.suite epoch.suite)
  else if body.length < epoch.secret.length then some .shorterThanSecret
  else if body.take epoch.secret.length ≠ epoch.secret then
    some (.secretMismatch (body.take epoch.secret.length) epoch.secret)
  else none

/-- A delivery under a tag.  There are three tags. -/
def Delivery.tagged (tag : Int) (data : Bytes) : Result Delivery :=
  if tag = 'H'.toNat then .ok { type := .handshake, data }
  else if tag = 'A'.toNat then .ok { type := .applicationData, data }
  else if tag = 'L'.toNat then .ok { type := .alert, data }
  else .error (.unknownTag tag)

namespace Transport

/-- What a read of a byte string comes to. -/
structure Reading where
  result : Result Delivery
  transport : Transport
  /-- The bytes that the read has left. -/
  unread : Bytes
  notes : List Note := []

/-- What a record comes to that is not dropped. -/
def judge (transport : Transport) (header : Header) (body rest : Bytes) : Reading :=
  match transport.read.refusal? header body with
  | some cause =>
    { result := .error cause, transport, unread := rest, notes := [.rejected header cause] }
  | none =>
    { result := Delivery.tagged header.tag (body.drop transport.read.secret.length)
      transport := { transport with skipping := false, received := transport.received + 1 }
      unread := rest
      notes := [.received header] }

/-- What a read of a byte string comes to, which fails with `ending` where
the bytes run out. -/
def reading (ending : StreamError) (transport : Transport) (bytes : Bytes) : Reading :=
  match _h : Front.of bytes with
  | .noHeader => { result := .error (.stream ending), transport, unread := [] }
  | .noBody _ => { result := .error .bodyInterrupted, transport, unread := [] }
  | .whole header body rest =>
    if transport.skipping = true ∧ transport.read.level ≠ 1 ∧ header.level = 1 then
      let later := reading ending { transport with skipped := transport.skipped + 1 } rest
      { later with notes := .skipped header :: later.notes }
    else transport.judge header body rest
termination_by bytes.length
decreasing_by exact Front.length_rest_lt_of_whole _h

/-- Whether a transport drops a record with a header. -/
def Drops (transport : Transport) (header : Header) : Prop :=
  transport.skipping = true ∧ transport.read.level ≠ 1 ∧ header.level = 1

instance (transport : Transport) (header : Header) : Decidable (transport.Drops header) :=
  inferInstanceAs (Decidable (_ ∧ _ ∧ _))

theorem reading_noHeader {ending : StreamError} {transport : Transport} {bytes : Bytes}
    (h : Front.of bytes = .noHeader) :
    transport.reading ending bytes =
      { result := .error (.stream ending), transport, unread := [] } := by
  rw [reading]
  split
  next => rfl
  next h' => rw [h] at h'; cases h'
  next h' => rw [h] at h'; cases h'

theorem reading_noBody {ending : StreamError} {transport : Transport} {bytes : Bytes}
    {header : Header} (h : Front.of bytes = .noBody header) :
    transport.reading ending bytes =
      { result := .error .bodyInterrupted, transport, unread := [] } := by
  rw [reading]
  split
  next h' => rw [h] at h'; cases h'
  next => rfl
  next h' => rw [h] at h'; cases h'

theorem reading_whole {ending : StreamError} {transport : Transport} {bytes body rest : Bytes}
    {header : Header} (h : Front.of bytes = .whole header body rest) :
    transport.reading ending bytes =
      if transport.Drops header then
        let later := reading ending { transport with skipped := transport.skipped + 1 } rest
        { later with notes := .skipped header :: later.notes }
      else transport.judge header body rest := by
  rw [reading]
  split
  next h' => rw [h] at h'; cases h'
  next h' => rw [h] at h'; cases h'
  next h' =>
    rw [h] at h'
    obtain ⟨rfl, rfl, rfl⟩ := Front.whole.inj h'
    rfl

end Transport

/-! ## Decisions on a record -/

/-- An epoch accepts what it has no reason to refuse. -/
theorem Epoch.accept_eq (epoch : Epoch) (header : Header) (body : Bytes) :
    epoch.accept header body =
      match epoch.refusal? header body with
      | some cause => .error cause
      | none => .ok (body.drop epoch.secret.length) := by
  by_cases hlevel : header.level = epoch.level
  case neg => simp only [accept, refusal?, if_pos hlevel]; rfl
  by_cases hsuite : header.suite = epoch.suite
  case neg => simp only [accept, refusal?, if_neg (not_not_intro hlevel), if_pos hsuite]; rfl
  by_cases hsize : body.length < epoch.secret.length
  case pos =>
    simp only [accept, refusal?, if_neg (not_not_intro hlevel), if_neg (not_not_intro hsuite),
      if_pos hsize]
    rfl
  by_cases hsecret : body.take epoch.secret.length = epoch.secret
  case neg =>
    simp only [accept, refusal?, if_neg (not_not_intro hlevel), if_neg (not_not_intro hsuite),
      if_neg hsize, if_pos hsecret, List.splitAt_eq]
    rfl
  simp only [accept, refusal?, if_neg (not_not_intro hlevel), if_neg (not_not_intro hsuite),
    if_neg hsize, if_neg (not_not_intro hsecret), List.splitAt_eq]
  rfl

/-- The three tags are those of the three record types. -/
theorem Delivery.tagged_eq (tag : Int) (data : Bytes) :
    tagged tag data = (RecordType.ofTag tag).map fun type => { type, data } := by
  simp only [tagged, RecordType.ofTag, RecordType.ofTag?]
  show (if tag = 72 then _ else if tag = 65 then _ else if tag = 76 then _ else _) = _
  by_cases h : tag = 72
  · simp only [if_pos h]; rfl
  by_cases a : tag = 65
  · simp only [if_neg h, if_pos a]; rfl
  by_cases l : tag = 76
  · simp only [if_neg h, if_neg a, if_pos l]; rfl
  simp only [if_neg h, if_neg a, if_neg l]
  rfl

namespace Transport

theorem skips_iff (transport : Transport) (header : Header) :
    transport.skips header = true ↔ transport.Drops header := by
  rw [skips, Bool.and_eq_true, Bool.and_eq_true, decide_eq_true_iff, decide_eq_true_iff]
  constructor
  · rintro ⟨⟨hne, hskipping⟩, hlevel⟩
    exact ⟨hskipping, fun h => hne (hlevel.trans h.symm), hlevel⟩
  · rintro ⟨hskipping, hne, hlevel⟩
    exact ⟨⟨fun h => hne (h.symm.trans hlevel), hskipping⟩, hlevel⟩

/-- A record that is dropped is counted and noted. -/
theorem accept_of_drops {transport : Transport} {header : Header} {body : Bytes}
    (h : transport.Drops header) :
    accept header body transport =
      { result := .ok none
        state := { transport with skipped := transport.skipped + 1 }
        notes := [.skipped header] } := by
  have hskips := (skips_iff transport header).2 h
  simp [accept, Act.bind_apply, hskips]

/-- A record that is not dropped is judged. -/
theorem accept_of_not_drops {transport : Transport} {header : Header} {body : Bytes} (rest : Bytes)
    (h : ¬transport.Drops header) :
    accept header body transport =
      { result := (transport.judge header body rest).result.map some
        state := (transport.judge header body rest).transport
        notes := (transport.judge header body rest).notes } := by
  have hskips : transport.skips header = false := by
    rw [Bool.eq_false_iff]
    exact fun hskips => h ((skips_iff transport header).1 hskips)
  have haccept := Epoch.accept_eq transport.read header body
  simp only [accept, Act.bind_apply, Act.get_apply, hskips, Bool.false_eq_true, if_false, judge]
  cases hrefusal : transport.read.refusal? header body with
  | some cause =>
    rw [hrefusal] at haccept
    simp [haccept, Act.bind_apply]
    rfl
  | none =>
    rw [hrefusal] at haccept
    simp only [haccept, Delivery.tagged_eq]
    cases RecordType.ofTag header.tag with
    | error cause => simp [Act.bind_apply]; rfl
    | ok type => simp [Act.bind_apply]; rfl

@[simp] theorem judge_unread (transport : Transport) (header : Header) (body rest : Bytes) :
    (transport.judge header body rest).unread = rest := by
  unfold judge
  split <;> rfl

end Transport

/-! ## Reading from a wire -/

namespace Connection

/-- What a connection is left with when a read has come to something. -/
def settled (connection : Connection) (reading : Transport.Reading) (reads : Nat) (before : List Note) :
    Outcome Connection Delivery :=
  { result := reading.result
    state := { connection.leaving reading.unread reads with transport := reading.transport }
    notes := before ++ reading.notes }

/-- Once the header is there, the body is gathered. -/
theorem onArrival_startBody_of_le (before : List Note) {connection : Connection} {header : Header}
    (hopen : connection.wire.incoming.readerClosed = false)
    (steady : connection.wire.port.Steady) (hnonneg : 0 ≤ header.length)
    (henough : header.length ≤ connection.wire.incoming.queue.length) :
    ∃ reads, onArrival (.ok (Intake.startBody header)) before connection =
      onArrival (.ok (.whole header (connection.wire.incoming.queue.take header.length.toNat)))
        before
        (connection.leaving (connection.wire.incoming.queue.drop header.length.toNat) reads) := by
  by_cases hzero : header.length ≤ 0
  · have hnone : header.length.toNat = 0 := by omega
    refine ⟨0, ?_⟩
    rw [Intake.startBody, if_pos hzero, hnone]
    rfl
  · rw [Intake.startBody, if_neg hzero]
    exact @readOn_gather before { header := some header, missing := header.length.toNat }
      connection hopen steady (by dsimp only; omega) (by dsimp only; omega)

/-- Once the header is there, a body that is cut short is an interrupted one. -/
theorem onArrival_startBody_of_lt (before : List Note) {connection : Connection} {header : Header}
    (hopen : connection.wire.incoming.readerClosed = false)
    (steady : connection.wire.port.Steady)
    (hshort : connection.wire.incoming.queue.length < header.length) :
    ∃ reads, onArrival (.ok (Intake.startBody header)) before connection =
      { result := .error .bodyInterrupted, state := connection.leaving [] reads,
        notes := before } := by
  rw [Intake.startBody, if_neg (by omega)]
  exact @readOn_runsOut before { header := some header, missing := header.length.toNat }
    connection hopen steady (by dsimp only; omega)

/-- Reading on from the start of a record comes to a reading of the bytes
that are there. -/
theorem readOn_eq_reading (before : List Note) {connection : Connection}
    (hopen : connection.wire.incoming.readerClosed = false)
    (steady : connection.wire.port.Steady) :
    ∃ reads, readOn {} before connection =
      connection.settled
        (connection.transport.reading connection.wire.ending connection.wire.incoming.queue)
        reads before := by
  -- induction on the bytes that are there: a record that is dropped takes some
  induction hn : connection.wire.incoming.queue.length using Nat.strongRecOn
    generalizing connection before with
  | ind n ih =>
    subst hn
    by_cases hshort : connection.wire.incoming.queue.length < 8
    case pos =>
      obtain ⟨reads, hread⟩ := @readOn_runsOut before {} connection hopen steady hshort
      refine ⟨reads, ?_⟩
      rw [hread, Transport.reading_noHeader (Front.of_eq_noHeader hshort)]
      simp [settled, leaving, Intake.interrupted]
    -- the header is there
    obtain ⟨reads, hread⟩ := @readOn_gather before {} connection hopen steady (by decide)
      (Nat.not_lt.1 hshort)
    have height : (connection.wire.incoming.queue.take 8).length = 8 := by
      rw [List.length_take]
      omega
    obtain ⟨header, hdecode, hnonneg⟩ := Front.exists_header height
    have hcomplete : Intake.complete {} (connection.wire.incoming.queue.take 8) =
        .ok (Intake.startBody header) := by
      show (Header.decode ([].reverse ++ connection.wire.incoming.queue.take 8)).map _ = _
      rw [List.reverse_nil, List.nil_append, hdecode]
      rfl
    have hfront := @Front.of_append _ (connection.wire.incoming.queue.drop 8) _ hdecode
    rw [List.take_append_drop] at hfront
    rw [hread, show ({} : Intake).missing = 8 from rfl, hcomplete]
    have hleft : (connection.wire.incoming.queue.drop 8).length <
        connection.wire.incoming.queue.length := by
      rw [List.length_drop]
      omega
    by_cases hbody : header.length ≤ (connection.wire.incoming.queue.drop 8).length
    case neg =>
      obtain ⟨reads', hread'⟩ := @onArrival_startBody_of_lt before
        (connection.leaving (connection.wire.incoming.queue.drop 8) reads) header hopen
        (Wire.steady_leaving steady _ _) (Int.not_le.1 hbody)
      refine ⟨reads + reads', ?_⟩
      rw [if_neg hbody] at hfront
      rw [hread', Transport.reading_noBody hfront, leaving_leaving]
      simp [settled, leaving]
    obtain ⟨reads', hread'⟩ := @onArrival_startBody_of_le before
      (connection.leaving (connection.wire.incoming.queue.drop 8) reads) header hopen
      (Wire.steady_leaving steady _ _) hnonneg hbody
    rw [if_pos hbody] at hfront
    rw [hread', Transport.reading_whole hfront, leaving_leaving, wire_leaving,
      Wire.queue_leaving]
    -- the record is there
    generalize (connection.wire.incoming.queue.drop 8).take header.length.toNat = body
    generalize hrest : (connection.wire.incoming.queue.drop 8).drop header.length.toNat = rest
    have hlt : rest.length < connection.wire.incoming.queue.length := by
      rw [← hrest, List.length_drop]
      omega
    by_cases hdrops : connection.transport.Drops header
    · obtain ⟨reads'', hlater⟩ := @ih rest.length hlt (before ++ [.skipped header])
        { connection.leaving rest (reads + reads') with
          transport := { connection.transport with skipped := connection.transport.skipped + 1 } }
        hopen (Wire.steady_leaving steady _ _) rfl
      refine ⟨reads + reads' + reads'', ?_⟩
      simp only [onArrival, onTransport_apply, transport_leaving,
        Transport.accept_of_drops hdrops, if_pos hdrops]
      rw [hlater]
      simp [settled, leaving]
    · refine ⟨reads + reads', ?_⟩
      simp only [onArrival, onTransport_apply, transport_leaving,
        Transport.accept_of_not_drops rest hdrops, if_neg hdrops]
      cases hresult : (connection.transport.judge header body rest).result with
      | error cause => simp [settled, leaving, hresult, Except.map]
      | ok delivery => simp [settled, leaving, hresult, Except.map]

/-- A connection reads what a read of the bytes that are there comes to. -/
theorem readRecord_eq_reading {connection : Connection}
    (hopen : connection.wire.incoming.readerClosed = false)
    (steady : connection.wire.port.Steady) :
    ∃ reads, readRecord connection =
      connection.settled
        (connection.transport.reading connection.wire.ending connection.wire.incoming.queue)
        reads [] :=
  readOn_eq_reading [] hopen steady

/-- On any bytes and the end of the stream after them, in any pieces, a
connection reads what a read of those bytes comes to.  Nothing else of it
changes. -/
theorem readRecord_to_end_of_stream (endpoint : Endpoint) (bytes : Bytes) (outgoing : Channel)
    (port : Port) (steady : port.Steady) :
    let wire : Wire := { incoming := { queue := bytes, writerClosed := true }, outgoing, port }
    let reading := endpoint.transport.reading .ended bytes
    ∃ reads, readRecord { toEndpoint := endpoint, wire } =
      { result := reading.result
        state := { transport := reading.transport, log := endpoint.log,
                   wire := wire.leaving reading.unread reads }
        notes := reading.notes } :=
  @readRecord_eq_reading
    { toEndpoint := endpoint,
      wire := { incoming := { queue := bytes, writerClosed := true }, outgoing, port } } rfl steady

/-- A record of early data is dropped and the record after it is delivered,
although they come in pieces of three, one and then two bytes. -/
theorem readRecord_to_end_of_stream_in_pieces :
    let port : Port := { limit := some 2, pieces := [3, 1] }
    let transport : Transport := { side := .server, read := { level := 2, secret := [9] },
                                   skipping := true }
    let bytes : Bytes := [65, 1, 0, 0, 0, 0, 0, 0, 72, 2, 0, 0, 0, 0, 0, 2, 9, 7, 72]
    port.Steady ∧
      ∃ reads, readRecord
        { transport, wire := { incoming := { queue := bytes, writerClosed := true }, port } } =
        { result := .ok { type := .handshake, data := [7] }
          state := { transport := { transport with skipping := false, skipped := 1, received := 1 }
                     wire := { incoming := { queue := [72], writerClosed := true },
                               port := { limit := some 2, pieces := [3, 1].drop reads } } }
          notes := [.skipped { tag := 65, level := 1, suite := 0, length := 0 },
                    .received { tag := 72, level := 2, suite := 0, length := 2 }] } := by
  intro port transport bytes
  have steady : port.Steady := ⟨rfl, by simp [port], by simp [port]⟩
  obtain ⟨reads, hread⟩ := readRecord_to_end_of_stream { transport } bytes {} port steady
  have hfirst : Front.of bytes =
      .whole { tag := 65, level := 1, suite := 0, length := 0 } [] (bytes.drop 8) := by decide
  have hsecond : Front.of (bytes.drop 8) =
      .whole { tag := 72, level := 2, suite := 0, length := 2 } [9, 7] [72] := by decide
  rw [Transport.reading_whole hfirst, if_pos ⟨rfl, by decide, rfl⟩,
    Transport.reading_whole hsecond, if_neg (fun h => absurd h.2.2 (by decide))] at hread
  exact ⟨steady, reads, hread⟩

end Connection

end RecordLayer
