import Mathlib.Tactic.Common
import RecordLayer.Proofs.Reading

/-!
# Reading from a queue of records

What a read comes to when the bytes that are there are whole records.
`Transport.reading_records` is the account of one read: which records it has
taken from the front of the queue, what it has noted of each, and how the
counters of the transport have moved.

Records that are refused leave the counters as they are, and
`Error.refusesRecord` tells them from every other outcome.
-/

namespace RecordLayer

/-- Whether a failure is one of the four reasons to refuse a whole record. -/
def Error.refusesRecord : Error → Bool
  | .levelMismatch .. | .suiteMismatch .. | .shorterThanSecret | .secretMismatch .. => true
  | _ => false

/-- The header of a record that was taken off the wire, in a note about it. -/
def Note.taken? : Note → Option Header
  | .received header | .skipped header | .rejected header _ => some header
  | _ => none

/-- The bytes of records, one after another. -/
def Record.stream (records : List Record) : Bytes := records.flatMap Record.bytes

@[simp] theorem Record.stream_nil : Record.stream [] = [] := rfl

@[simp] theorem Record.stream_cons (record : Record) (records : List Record) :
    Record.stream (record :: records) = record.bytes ++ Record.stream records := rfl

theorem Record.stream_append (records records' : List Record) :
    Record.stream (records ++ records') = Record.stream records ++ Record.stream records' := by
  simp [Record.stream]

/-- Records that fit are written one by one, and their bytes make up the stream. -/
theorem Record.mapM_encode {records : List Record} (fits : ∀ record ∈ records, record.Fits) :
    ∃ frames, records.mapM Record.encode = .ok frames ∧ Record.stream records = frames.flatten := by
  induction records with
  | nil => exact ⟨[], rfl, rfl⟩
  | cons record records ih =>
    obtain ⟨frames, hframes, hstream⟩ := ih fun r hr => fits r (List.mem_cons_of_mem _ hr)
    refine ⟨record.bytes :: frames, ?_, ?_⟩
    · rw [List.mapM_cons, (fits record List.mem_cons_self).encode, hframes]
      rfl
    · rw [Record.stream_cons, hstream, List.flatten_cons]

/-- What is written one by one is records that fit, and makes up their stream. -/
theorem Record.stream_of_mapM_encode {records : List Record} {frames : List Bytes}
    (h : records.mapM Record.encode = .ok frames) :
    (∀ record ∈ records, record.Fits) ∧ Record.stream records = frames.flatten := by
  induction records generalizing frames with
  | nil =>
    obtain rfl := Except.ok.inj h
    exact ⟨by simp, rfl⟩
  | cons record records ih =>
    obtain ⟨frame, frames', hencode, hframes, rfl⟩ := Result.exists_of_mapM_cons h
    obtain ⟨fits, rfl⟩ := Record.encode_eq_ok_iff.1 hencode
    obtain ⟨hfits, hstream⟩ := ih hframes
    refine ⟨List.forall_mem_cons.2 ⟨fits, hfits⟩, ?_⟩
    rw [Record.stream_cons, hstream, List.flatten_cons]

namespace Transport

/-- How many records are refused with a result: one or none. -/
def refusedBy {α : Type} (result : Result α) : Nat :=
  match result with
  | .error cause => if cause.refusesRecord then 1 else 0
  | .ok _ => 0

/-- A refusal is one of the four reasons. -/
theorem refusesRecord_of_refusal {epoch : Epoch} {header : Header} {body : Bytes} {cause : Error}
    (h : epoch.refusal? header body = some cause) : cause.refusesRecord = true := by
  unfold Epoch.refusal? at h
  split_ifs at h
  all_goals
    obtain rfl := Option.some.inj h
    rfl

/-- What is not refused starts with the secret. -/
theorem take_of_refusal_eq_none {epoch : Epoch} {header : Header} {body : Bytes}
    (h : epoch.refusal? header body = none) :
    header.level = epoch.level ∧ header.suite = epoch.suite ∧
      body = epoch.secret ++ body.drop epoch.secret.length := by
  unfold Epoch.refusal? at h
  split_ifs at h with hlevel hsuite hsize hsecret
  refine ⟨not_not.1 hlevel, not_not.1 hsuite, ?_⟩
  have hinitial := List.take_append_drop epoch.secret.length body
  rw [not_not.1 hsecret] at hinitial
  exact hinitial.symm

/-- The account of one read of a queue of records: the records `taken` are
off the queue, and the records `waiting` are still in it. -/
structure Account (transport : Transport) (reading : Reading) (taken waiting : List Record) :
    Prop where
  unread : reading.unread = Record.stream waiting
  headers : reading.notes.filterMap Note.taken? = taken.map Record.header
  counters : reading.transport.received + reading.transport.skipped + refusedBy reading.result =
    transport.received + transport.skipped + taken.length
  sent : reading.transport.sent = transport.sent
  whole : reading.result ≠ .error .bodyInterrupted
  delivered : ∀ delivery, reading.result = .ok delivery →
    ∃ dropped last, taken = dropped ++ [last] ∧ last.body = transport.read.secret ++ delivery.data

/-- A record that is judged is taken alone. -/
theorem account_judge (transport : Transport) (record : Record) (waiting : List Record) :
    Account transport (transport.judge record.header record.body (Record.stream waiting))
      [record] waiting := by
  cases hrefusal : transport.read.refusal? record.header record.body with
  | some cause =>
    have hrefuses := refusesRecord_of_refusal hrefusal
    simp only [judge, hrefusal]
    refine ⟨rfl, rfl, ?_, rfl, ?_, ?_⟩
    · simp [refusedBy, hrefuses]
    · rintro h
      obtain rfl := Except.error.inj h
      cases hrefuses
    · intro delivery h
      cases h
  | none =>
    have hbody := (take_of_refusal_eq_none hrefusal).2.2
    simp only [judge, hrefusal, Delivery.tagged_eq]
    cases htag : RecordType.ofTag record.header.tag with
    | error cause =>
      have hcause : cause = .unknownTag record.header.tag := by
        unfold RecordType.ofTag at htag
        split at htag
        · cases htag
        · exact (Except.error.inj htag).symm
      subst hcause
      refine ⟨rfl, rfl, ?_, rfl, ?_, ?_⟩
      · simp [Except.map, refusedBy, Error.refusesRecord]
        omega
      · rintro ⟨⟩
      · rintro delivery ⟨⟩
    | ok type =>
      refine ⟨rfl, rfl, ?_, rfl, ?_, ?_⟩
      · simp [Except.map, refusedBy]
        omega
      · rintro ⟨⟩
      · intro delivery h
        obtain rfl := Except.ok.inj h
        exact ⟨[], record, rfl, hbody⟩

/-- A read of a queue of records takes whole records from its front. -/
theorem reading_records (ending : StreamError) {records : List Record}
    (fits : ∀ record ∈ records, record.Fits) (transport : Transport) :
    ∃ taken waiting, records = taken ++ waiting ∧
      Account transport (transport.reading ending (Record.stream records)) taken waiting := by
  induction records generalizing transport with
  | nil =>
    refine ⟨[], [], rfl, ?_⟩
    rw [Record.stream_nil, reading_noHeader (Front.of_eq_noHeader (by decide))]
    exact ⟨rfl, rfl, rfl, rfl, by rintro ⟨⟩, by rintro delivery ⟨⟩⟩
  | cons record records ih =>
    have hfront := Front.of_bytes_append (fits record List.mem_cons_self) (Record.stream records)
    rw [Record.stream_cons, reading_whole hfront]
    by_cases hdrops : transport.Drops record.header
    · obtain ⟨taken, waiting, rfl, account⟩ :=
        ih (fun r hr => fits r (List.mem_cons_of_mem _ hr))
          { transport with skipped := transport.skipped + 1 }
      refine ⟨record :: taken, waiting, rfl, ?_⟩
      rw [if_pos hdrops]
      refine ⟨account.unread, ?_, ?_, account.sent, account.whole, ?_⟩
      · simp only [List.filterMap_cons, Note.taken?, account.headers, List.map_cons]
      · have := account.counters
        simp only [List.length_cons] at this ⊢
        omega
      · intro delivery h
        obtain ⟨dropped, last, rfl, hlast⟩ := account.delivered delivery h
        exact ⟨record :: dropped, last, rfl, hlast⟩
    · rw [if_neg hdrops]
      exact ⟨[record], records, rfl, account_judge transport record records⟩

end Transport

end RecordLayer
