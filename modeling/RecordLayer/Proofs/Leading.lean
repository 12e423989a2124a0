import Mathlib.Tactic.Common
import RecordLayer.Proofs.Queue

/-!
# The record in front

A transport reads successfully exactly when a record of its own read epoch
stands in front of the bytes that are there, after the records of early data
that it drops.

* `Transport.reading_stream_append`: records that are dropped do not change
  what a read comes to.
* `Transport.reading_of_leads` is the read of such a record.
* `Transport.reading_error_of_none`: without one a read fails.
* `Record.Leads.unique`: there is at most one such record under one epoch.
-/

namespace RecordLayer

/-- The bytes of a record stand in front of `rest`. -/
def Record.Leads (record : Record) (bytes rest : Bytes) : Prop :=
  ∃ frame, record.encode = .ok frame ∧ bytes = frame ++ rest

theorem Record.leads_iff {record : Record} {bytes rest : Bytes} :
    record.Leads bytes rest ↔ record.Fits ∧ bytes = record.bytes ++ rest := by
  constructor
  · rintro ⟨frame, hencode, rfl⟩
    obtain ⟨fits, rfl⟩ := Record.encode_eq_ok_iff.1 hencode
    exact ⟨fits, rfl⟩
  · rintro ⟨fits, rfl⟩
    exact ⟨record.bytes, fits.encode, rfl⟩

theorem Record.Leads.front {record : Record} {bytes rest : Bytes} (h : record.Leads bytes rest) :
    Front.of bytes = .whole record.header record.body rest := by
  obtain ⟨fits, rfl⟩ := Record.leads_iff.1 h
  exact Front.of_bytes_append fits rest

theorem Record.Leads.length_lt {record : Record} {bytes rest : Bytes}
    (h : record.Leads bytes rest) : rest.length < bytes.length :=
  Front.length_rest_lt_of_whole h.front

/-- Under one epoch, bytes have at most one record in front of them. -/
theorem Record.Leads.unique {epoch : Epoch} {type type' : RecordType} {data data' : Bytes}
    {bytes rest rest' : Bytes} (h : (epoch.stamp type data).Leads bytes rest)
    (h' : (epoch.stamp type' data').Leads bytes rest') :
    type = type' ∧ data = data' ∧ rest = rest' := by
  obtain ⟨hheader, hbody, hrest⟩ := Front.whole.inj (h.front.symm.trans h'.front)
  have htag : type.tag = type'.tag := congrArg Header.tag hheader
  have htype : some type = some type' := by
    rw [← RecordType.ofTag?_tag type, htag, RecordType.ofTag?_tag]
  exact ⟨Option.some.inj htype, List.append_cancel_left hbody, hrest⟩

/-- The bytes of records, one after another, stand in front of `rest`. -/
def Record.LeadAll : List Record → Bytes → Bytes → Prop
  | [], bytes, rest => bytes = rest
  | record :: records, bytes, rest =>
    ∃ middle, record.Leads bytes middle ∧ LeadAll records middle rest

/-- Records stand in front when they fit and the bytes start with theirs. -/
theorem Record.leadAll_iff {records : List Record} {bytes rest : Bytes} :
    LeadAll records bytes rest ↔
      (∀ record ∈ records, record.Fits) ∧ bytes = stream records ++ rest := by
  induction records generalizing bytes with
  | nil => simp [LeadAll, stream]
  | cons record records ih =>
    rw [stream_cons, List.append_assoc, List.forall_mem_cons]
    constructor
    · rintro ⟨middle, hlead, h⟩
      obtain ⟨fits, rfl⟩ := leads_iff.1 hlead
      obtain ⟨hfits, rfl⟩ := ih.1 h
      exact ⟨⟨fits, hfits⟩, rfl⟩
    · rintro ⟨⟨fits, hfits⟩, rfl⟩
      exact ⟨_, leads_iff.2 ⟨fits, rfl⟩, ih.2 ⟨hfits, rfl⟩⟩

/-- Records stand in front one part after the other. -/
theorem Record.leadAll_append {records records' : List Record} {bytes rest : Bytes} :
    LeadAll (records ++ records') bytes rest ↔
      ∃ middle, LeadAll records bytes middle ∧ LeadAll records' middle rest := by
  induction records generalizing bytes with
  | nil =>
    constructor
    · intro h
      exact ⟨bytes, rfl, h⟩
    · intro h
      obtain ⟨middle, rfl, h⟩ := h
      exact h
  | cons record records ih =>
    constructor
    · intro h
      obtain ⟨next, hlead, h⟩ := h
      obtain ⟨middle, h, h'⟩ := ih.1 h
      exact ⟨middle, ⟨next, hlead, h⟩, h'⟩
    · intro h
      obtain ⟨middle, ⟨next, hlead, h⟩, h'⟩ := h
      exact ⟨next, hlead, ih.2 ⟨middle, h, h'⟩⟩

namespace Transport

/-- Records of early data in front of any bytes are dropped, and the read goes
on behind them. -/
theorem reading_stream_append (ending : StreamError) {transport : Transport}
    {dropped : List Record} (hdropped : ∀ record ∈ dropped, record.Fits ∧ record.level = 1)
    (hskips : dropped ≠ [] → transport.skipping = true ∧ transport.read.level ≠ 1) (bytes : Bytes) :
    let later := reading ending
      { transport with skipped := transport.skipped + dropped.length } bytes
    transport.reading ending (Record.stream dropped ++ bytes) =
      { later with notes := dropped.map (fun record => .skipped record.header) ++ later.notes } := by
  induction dropped generalizing transport with
  | nil => rfl
  | cons record dropped ih =>
    obtain ⟨hskipping, hread⟩ := hskips (List.cons_ne_nil _ _)
    obtain ⟨fits, hlevel⟩ := hdropped record List.mem_cons_self
    have hfront := Front.of_bytes_append fits (Record.stream dropped ++ bytes)
    have hdrops : transport.Drops record.header := ⟨hskipping, hread, hlevel⟩
    have hlater := @ih { transport with skipped := transport.skipped + 1 }
      (fun record hrecord => hdropped record (List.mem_cons_of_mem _ hrecord))
      (fun _ => ⟨hskipping, hread⟩)
    have hcount : transport.skipped + 1 + dropped.length =
        transport.skipped + (record :: dropped).length := by
      rw [List.length_cons]
      omega
    rw [Record.stream_cons, List.append_assoc, reading_whole hfront, if_pos hdrops]
    dsimp only at hlater ⊢
    rw [hlater, hcount]
    rfl

/-- A record of the read epoch is delivered, after early data that is dropped. -/
theorem reading_of_leads (ending : StreamError) {transport : Transport} {dropped : List Record}
    {type : RecordType} {data bytes rest : Bytes}
    (hdropped : ∀ record ∈ dropped, record.Fits ∧ record.level = 1)
    (hskips : dropped ≠ [] → transport.skipping = true ∧ transport.read.level ≠ 1)
    (h : (transport.read.stamp type data).Leads bytes rest) :
    let reading := transport.reading ending (Record.stream dropped ++ bytes)
    reading.result = .ok { type, data } ∧ reading.unread = rest ∧
      reading.transport = { transport with
        skipping := false, skipped := transport.skipped + dropped.length
        received := transport.received + 1 } := by
  have hdrops : ∀ count, ¬Drops { transport with skipped := count }
      (transport.read.stamp type data).header :=
    fun _ hdrops => hdrops.2.1 hdrops.2.2
  have hrefusal : transport.read.refusal? (transport.read.stamp type data).header
      (transport.read.stamp type data).body = none := by
    simp [Epoch.refusal?, Epoch.stamp, Record.header, Record.body]
  have htag : Delivery.tagged (transport.read.stamp type data).header.tag data =
      .ok { type, data } := by
    cases type <;> rfl
  have hdata : (transport.read.stamp type data).body.drop transport.read.secret.length = data :=
    List.drop_left
  rw [reading_stream_append ending hdropped hskips bytes, reading_whole h.front,
    if_neg (hdrops _)]
  simp [judge, hrefusal, hdata, htag]

/-- A read that finds no record of the read epoch, behind any early data that
it drops, fails. -/
theorem reading_error_of_none (ending : StreamError) {transport : Transport} {bytes : Bytes}
    (h : ∀ dropped later type data rest, (∀ record ∈ dropped, record.Fits ∧ record.level = 1) →
      (dropped ≠ [] → transport.skipping = true ∧ transport.read.level ≠ 1) →
      bytes = Record.stream dropped ++ later →
      ¬(transport.read.stamp type data).Leads later rest) :
    ∃ e, (transport.reading ending bytes).result = .error e := by
  induction hn : bytes.length using Nat.strongRecOn generalizing bytes transport with
  | ind n ih =>
  subst hn
  cases hfront : Front.of bytes with
  | noHeader => exact ⟨_, by rw [reading_noHeader hfront]⟩
  | noBody header => exact ⟨_, by rw [reading_noBody hfront]⟩
  | whole header body rest =>
    rw [reading_whole hfront]
    by_cases hdrops : transport.Drops header
    · obtain ⟨fits, -, hbytes⟩ := Front.eq_bytes_append_of_whole hfront (List.nil_append body).symm
      rw [if_pos hdrops]
      refine @ih _ (Front.length_rest_lt_of_whole hfront)
        { transport with skipped := transport.skipped + 1 } rest ?_ rfl
      intro dropped later type data rest' hdropped _ hrest
      refine h (_ :: dropped) later type data rest' (List.forall_mem_cons.2 ⟨⟨fits, hdrops.2.2⟩, hdropped⟩)
        (fun _ => ⟨hdrops.1, hdrops.2.1⟩) ?_
      rw [Record.stream_cons, List.append_assoc, ← hrest]
      exact hbytes
    · rw [if_neg hdrops, judge]
      cases hrefusal : transport.read.refusal? header body with
      | some cause => exact ⟨cause, rfl⟩
      | none =>
        obtain ⟨hlevel, hsuite, hbody⟩ := take_of_refusal_eq_none hrefusal
        dsimp only
        rw [Delivery.tagged_eq, RecordType.ofTag]
        cases htype : RecordType.ofTag? header.tag with
        | none => exact ⟨_, rfl⟩
        | some type =>
          obtain ⟨fits, -, hbytes⟩ := Front.eq_bytes_append_of_whole hfront hbody
          rw [RecordType.ofTag?_eq_some_iff.1 htype, hlevel, hsuite] at fits hbytes
          exact absurd (Record.leads_iff.2 ⟨fits, hbytes⟩)
            (h [] bytes type (body.drop transport.read.secret.length) rest (by simp) (by simp) rfl)

end Transport

end RecordLayer
