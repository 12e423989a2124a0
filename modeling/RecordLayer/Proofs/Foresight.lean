import Mathlib.Tactic.Common
import RecordLayer.KeyAgreement
import RecordLayer.Proofs.KeyLogs
import RecordLayer.Proofs.PacedRuns
import RecordLayer.Proofs.Progress

/-!
# Runs with more to read

What a party does goes by the bytes that it has read, and never by those behind
them.  So each operation with less to read can be made with more to read, at a
pace that fits (`Party.exists_step_extended`).  A run with more goes the same way
as one without, up to the point where the one without has nothing left to read; from there
on it only adds to what has been sent and logged (`Party.run_extended`).

`Party.run_on_more_bytes` is what this comes to for byte strings in front of the
end of a stream.
-/

namespace RecordLayer

namespace Wire

variable {wire left : Wire}

/-- The wire with more to read behind what is there. -/
def extended (wire : Wire) (more : Bytes) : Wire :=
  { wire with incoming := { wire.incoming with queue := wire.incoming.queue ++ more } }

theorem extended_closedIf (wire : Wire) (more : Bytes) (closes : Bool) :
    (wire.closedIf closes).extended more = (wire.extended more).closedIf closes := by
  cases closes <;> rfl

/-- A read that need not wait is made at a closed end, or meets the end of the stream, or takes
some bytes. -/
theorem receive_cases (steady : wire.port.Steady) {count : Nat} {chunk : Except StreamError Bytes}
    (hreceive : wire.receive count = (chunk, left)) (hchunk : chunk ≠ .error .wouldBlock) :
    (wire.incoming.readerClosed = true ∧ chunk = .error .badDescriptor ∧ left = wire) ∨
      chunk = .ok [] ∨ ∃ bytes, bytes ≠ [] ∧ chunk = .ok bytes := by
  cases hopen : wire.incoming.readerClosed with
  | true =>
    rw [receive_of_closed hopen] at hreceive
    obtain ⟨rfl, rfl⟩ := Prod.mk.inj hreceive
    exact Or.inl ⟨rfl, rfl, rfl⟩
  | false =>
  right
  cases chunk with
  | ok bytes =>
    by_cases hne : bytes = []
    · exact Or.inl (by rw [hne])
    · exact Or.inr ⟨bytes, hne, rfl⟩
  | error e =>
  by_cases hqueue : wire.incoming.queue = []
  · rw [receive_of_empty hopen steady count hqueue] at hreceive
    split at hreceive
    · cases hreceive
    · obtain ⟨herror, -⟩ := Prod.mk.inj hreceive
      exact (hchunk herror.symm).elim
  · rw [receive_of_ne_nil hopen steady hqueue] at hreceive
    cases hreceive

/-- The wire with one read that takes so many bytes at most, and no pace after it. -/
def taking (wire : Wire) (count : Nat) : Wire := wire.hearing wire.incoming { pieces := [count] }

theorem steady_taking (wire : Wire) {count : Nat} (h : count ≠ 0) : (wire.taking count).port.Steady := by
  have steady : Port.Steady { pieces := [count] } := ⟨rfl, by simp, by simpa using h.symm⟩
  exact steady_hearing steady _ _

theorem receive_taking (hopen : wire.incoming.readerClosed = false) {chunk rest : Bytes}
    (hqueue : wire.incoming.queue = chunk ++ rest) (hne : chunk ≠ []) {count : Nat}
    (hle : chunk.length ≤ count) :
    (wire.taking chunk.length).receive count =
      (.ok chunk, (wire.taking chunk.length).leaving rest 1) := by
  have hlength : chunk.length ≠ 0 := fun h => hne (List.length_eq_zero_iff.1 h)
  have hthere : wire.incoming.queue ≠ [] := by
    rw [hqueue]
    exact List.append_ne_nil_of_left_ne_nil hne _
  have hallowance : (wire.taking chunk.length).allowance count = chunk.length :=
    Nat.min_eq_right hle
  have htaking : (wire.taking chunk.length).incoming.queue = chunk ++ rest := hqueue
  have hreceive := @receive_of_ne_nil (wire.taking chunk.length) hopen (steady_taking wire hlength)
    hthere count
  rw [hreceive, hallowance, htaking, List.take_left, List.drop_left]

/-- A chunk that a read takes can be taken too with more behind it. -/
theorem receive_extended (steady : wire.port.Steady) {count : Nat} {chunk : Bytes} (hne : chunk ≠ [])
    (hreceive : wire.receive count = (.ok chunk, left)) (more : Bytes) :
    ∃ left', ((wire.extended more).taking chunk.length).receive count = (.ok chunk, left') ∧
      (left.extended more).Matches left' := by
  have hopen : wire.incoming.readerClosed = false := by
    cases hopen : wire.incoming.readerClosed with
    | false => rfl
    | true => rw [receive_of_closed hopen] at hreceive; cases hreceive
  have hqueue := receive_queue hreceive
  have hthere : wire.incoming.queue ≠ [] := by
    rw [← hqueue]
    exact List.append_ne_nil_of_left_ne_nil hne _
  have hextended : (wire.extended more).incoming.queue = chunk ++ (left.incoming.queue ++ more) := by
    rw [← List.append_assoc, hqueue]
    rfl
  have hlength : chunk.length ≠ 0 := fun h => hne (List.length_eq_zero_iff.1 h)
  refine ⟨_, @receive_taking (wire.extended more) hopen _ _ hextended hne _
    (length_receive_le hreceive), ?_⟩
  rw [receive_of_ne_nil hopen steady hthere] at hreceive
  obtain ⟨-, rfl⟩ := Prod.mk.inj hreceive
  exact ⟨rfl, rfl, rfl, steady_leaving steady _ _, steady_leaving (steady_taking _ hlength) _ _⟩

end Wire

/-! ## Wires that match -/

theorem Wire.Matches.trans {wire wire' wire'' : Wire} (h : wire.Matches wire')
    (h' : wire'.Matches wire'') : wire.Matches wire'' :=
  ⟨h.incoming.trans h'.incoming, h.outgoing.trans h'.outgoing, h.writeFault.trans h'.writeFault,
    h.steady, h'.steady'⟩

theorem Wire.Matches.taking {wire wire' : Wire} (h : wire.Matches wire') {count : Nat}
    (hcount : count ≠ 0) : (wire.taking count).Matches wire' :=
  ⟨h.incoming, h.outgoing, h.writeFault, wire.steady_taking hcount, h.steady'⟩

namespace Party

variable {σ ρ : Type} {script : Script σ ρ} {party : Party σ ρ} {wire wire' : Wire}

/-! ## Runs with no more than what is there -/

/-- A party waits, or has failed since there was nothing left to read. -/
def CutShort (party : Party σ ρ) : Prop :=
  match party.status with
  | .running .. => True
  | .ended (.ok _) => False
  | .ended (.error e) => e = .stream .ended ∨ e = .bodyInterrupted

/-- A read of nothing fails, and leaves all else as it was. -/
theorem absorbing_nil {stage : σ} {p : σ → Prop} (next : Delivery → Act Session { s : σ // p s })
    (intake : Intake) (party : Party σ ρ) (wire : Wire) :
    absorbing script stage next intake party (.ok []) wire =
      ({ party with status := .ended (.error (intake.interrupted .ended)) },
        wire.closedIf script.closesOnFailure) := by
  simp only [absorbing, absorb, settle, Seat.onSession, Session.onEndpoint, Endpoint.onTransport,
    Act.focus_apply, Act.bind_apply, Transport.takeIn, Act.fail_apply, List.append_nil, Wire.closedIf]

theorem cutShort_of_interrupted {intake : Intake}
    (h : party.status = .ended (.error (intake.interrupted .ended))) : party.CutShort := by
  unfold CutShort
  rw [h]
  cases hheader : intake.header with
  | none =>
    left
    simp only [Intake.interrupted, hheader]
  | some header =>
    right
    simp only [Intake.interrupted, hheader]

/-- A run adds to what has been sent and logged. -/
theorem adds_run (hscript : script.AddsToLog) (party : Party σ ρ) (wire : Wire) :
    party.session.log.Grows (run script party wire).1.session.log ∧
      wire.outgoing.queue <+: (run script party wire).2.outgoing.queue := by
  have hreach := reaches_run script party wire
  obtain ⟨records, -, hsent⟩ := (advances_of_reaches hreach).sent
  exact ⟨grows_of_reaches hscript hreach, ⟨Record.stream records, hsent.symm⟩⟩

/-! ## Runs with more to read -/

/-- The run with more comes to the same, and leaves what is more unread. -/
structure Same (more : Bytes) (short long : Party σ ρ × Wire) : Prop where
  party : short.1 = long.1
  wire : (short.2.extended more).Matches long.2

/-- The run without more has nothing left to read, and the run with more only adds to
what has been sent and logged. -/
structure Adds (short long : Party σ ρ × Wire) : Prop where
  cut : short.1.CutShort
  log : short.1.session.log.Grows long.1.session.log
  sent : short.2.outgoing.queue <+: long.2.outgoing.queue

/-- Where the pace of the longer run does not matter for it, it does not matter either for how it
compares. -/
theorem same_or_adds_of_agree {more : Bytes} {short long long' : Party σ ρ × Wire}
    (hagree : Agree long long') (h : Same more short long ∨ Adds short long) :
    Same more short long' ∨ Adds short long' := by
  rcases h with hsame | hadds
  · exact Or.inl ⟨hsame.party.trans hagree.party, hsame.wire.trans hagree.wire⟩
  · right
    refine ⟨hadds.cut, ?_, ?_⟩
    · rw [← hagree.party]
      exact hadds.log
    · rw [← hagree.wire.outgoing]
      exact hadds.sent

/-- A party fails since there is nothing left to read, and leaves all else as it was. -/
structure RunsOut (before after : Party σ ρ × Wire) : Prop where
  ends : ∃ result, after.1.status = .ended result
  cut : after.1.CutShort
  log : after.1.session.log = before.1.session.log
  sent : after.2.outgoing.queue = before.2.outgoing.queue

/-- What a party does with less to read, it can do with more, at a pace that fits: unless it fails
since there is nothing left. -/
theorem exists_step_extended {more : Bytes} (h : (wire.extended more).Matches wire')
    {after : Party σ ρ × Wire} (hstep : Steps script (party, wire) after) :
    (∃ paced left, Wire.Matches paced wire' ∧ Steps script (party, paced) (after.1, left) ∧
      (after.2.extended more).Matches left) ∨ RunsOut (party, wire) after := by
  have steady : wire.port.Steady := h.steady
  have hself : wire'.Matches wire' := ⟨rfl, rfl, rfl, h.steady', h.steady'⟩
  rcases step_cases hstep with ⟨party₁, sent, closes, rfl, hsteps⟩ |
    ⟨stage, intake, next, chunk, left, party₁, closes, -, -, hreceive, hchunk, habsorb, heq, hsteps⟩
  · -- the party does not receive
    left
    have hlong := hsteps (wire.extended more).incoming wire'.port
    rw [show wire.hearing (wire.extended more).incoming wire'.port = wire' from
      h.eq_hearing.symm] at hlong
    have hsent : ((Wire.hearing sent wire.incoming wire.port).extended more).Matches
        (sent.hearing (wire.extended more).incoming wire'.port) :=
      ⟨rfl, rfl, rfl, Wire.steady_hearing steady _ _, Wire.steady_hearing h.steady' _ _⟩
    refine ⟨wire', _, hself, hlong, ?_⟩
    rw [Wire.extended_closedIf]
    exact hsent.closedIf closes
  rcases Wire.receive_cases steady hreceive hchunk with ⟨hclosed, rfl, rfl⟩ | rfl | ⟨bytes, hne, rfl⟩
  · -- its end is closed
    left
    subst heq
    have hclosed' : wire'.incoming.readerClosed = true := by
      rw [← h.incoming]
      exact hclosed
    refine ⟨wire', _, hself, hsteps wire' wire' (Wire.receive_of_closed hclosed' _), ?_⟩
    rw [Wire.extended_closedIf]
    exact h.closedIf closes
  · -- there is nothing left to read
    right
    rw [absorbing_nil] at habsorb
    subst habsorb
    refine ⟨⟨_, rfl⟩, cutShort_of_interrupted rfl, rfl, ?_⟩
    have hleft := Wire.outgoing_receive wire intake.missing
    rw [hreceive] at hleft
    rw [Wire.sent_closedIf, hleft]
  · -- some bytes are taken, and can be taken at another pace with more behind them
    left
    subst heq
    have hlength : bytes.length ≠ 0 := fun hzero => hne (List.length_eq_zero_iff.1 hzero)
    obtain ⟨left', hreceive', hleft⟩ := Wire.receive_extended steady hne hreceive more
    refine ⟨_, _, h.taking hlength, hsteps _ _ hreceive', ?_⟩
    rw [Wire.extended_closedIf]
    exact hleft.closedIf closes

/-- A run with more to read does what one without does, as far as that goes. -/
theorem run_extended (hscript : script.AddsToLog) (party : Party σ ρ) {more : Bytes}
    (h : (wire.extended more).Matches wire') :
    Same more (run script party wire) (run script party wire') ∨
      Adds (run script party wire) (run script party wire') := by
  -- induction on the run without more, which the run with more can follow
  induction party, wire using run.induct script generalizing wire' with
  | case1 party wire hnone =>
    rw [run_of_none hnone]
    cases hstatus : party.status with
    | ended result =>
      rw [run_of_ended hstatus]
      exact Or.inl ⟨rfl, h⟩
    | running stage intake =>
      obtain ⟨hlog, hsent⟩ := adds_run hscript party wire'
      rw [← h.outgoing] at hsent
      exact Or.inr ⟨by simp only [CutShort, hstatus], hlog, hsent⟩
  | case2 party wire after after' hstep ih =>
    rw [run_of_some hstep]
    rcases exists_step_extended h hstep with ⟨paced, left, hpaced, hlong, hleft⟩ | hruns
    · have hagree := agree_run script party hpaced
      rw [run_of_some hlong] at hagree
      exact same_or_adds_of_agree hagree (ih hleft)
    · obtain ⟨result, hstatus⟩ := hruns.ends
      obtain ⟨hlog, hsent⟩ := adds_run hscript party wire'
      rw [run_of_ended hstatus]
      refine Or.inr ⟨hruns.cut, ?_, ?_⟩
      · rw [hruns.log]
        exact hlog
      · rw [hruns.sent, show wire.outgoing = wire'.outgoing from h.outgoing]
        exact hsent

/-! ## Runs to the end of a stream -/

/-- An operation does not open the stream again, and keeps a port steady. -/
theorem keeps_of_step {after : Party σ ρ × Wire} (h : Steps script (party, wire) after) :
    after.2.incoming.writerClosed = wire.incoming.writerClosed ∧
      (wire.port.Steady → after.2.port.Steady) := by
  rcases step_cases h with ⟨party₁, sent, closes, rfl, -⟩ |
    ⟨stage, intake, next, chunk, left, party₁, closes, -, -, hreceive, -, -, rfl, -⟩
  · refine ⟨?_, fun steady => Wire.steady_closedIf (Wire.steady_hearing steady _ _) closes⟩
    exact Wire.writerClosed_closedIf _ closes
  · obtain ⟨-, hclosed, hsteady⟩ := Wire.receive_keeps wire intake.missing
    rw [hreceive] at hclosed hsteady
    refine ⟨?_, fun steady => Wire.steady_closedIf (hsteady steady) closes⟩
    exact (Wire.writerClosed_closedIf _ closes).trans hclosed

/-- A run to the end of a stream comes to a result. -/
theorem exists_ended_run (script : Script σ ρ) (party : Party σ ρ)
    (hclosed : wire.incoming.writerClosed = true) (steady : wire.port.Steady) :
    ∃ result, (run script party wire).1.status = .ended result := by
  induction party, wire using run.induct script with
  | case1 party wire hnone =>
    rw [run_of_none hnone]
    cases hstatus : party.status with
    | ended result => exact ⟨result, rfl⟩
    | running stage intake =>
      obtain ⟨-, hopen, -⟩ := receive_of_none hstatus steady hnone
      rw [hopen] at hclosed
      cases hclosed
  | case2 party wire party' wire' hstep ih =>
    obtain ⟨hkeeps, hsteady⟩ := keeps_of_step hstep
    rw [run_of_some hstep]
    exact ih (hkeeps.trans hclosed) (hsteady steady)

/-- How a run on a byte string goes on if the string does. -/
structure Extends (more : Bytes) (short long : Party σ ρ × Wire) : Prop where
  ends : ∃ result, short.1.status = .ended result
  ends' : ∃ result, long.1.status = .ended result
  sent : short.2.outgoing.queue <+: long.2.outgoing.queue
  logged : ∀ text, short.1.session.log.text? = some text →
    ∃ added, long.1.session.log.text? = some (text ++ added)
  returned : ∀ summary, short.1.result = .ok summary →
    long.1.result = .ok summary ∧ long.2.outgoing.queue = short.2.outgoing.queue ∧
      long.2.incoming.queue = short.2.incoming.queue ++ more
  failed : ∀ e, short.1.result = .error e → e ≠ .stream .ended → e ≠ .bodyInterrupted →
    long.1.result = .error e ∧ long.2.outgoing.queue = short.2.outgoing.queue

/-- A run on more bytes goes the way of the run on the first ones. -/
theorem extends_run (hscript : script.AddsToLog) (party : Party σ ρ) {more : Bytes}
    (hclosed : wire.incoming.writerClosed = true) (h : (wire.extended more).Matches wire') :
    Extends more (run script party wire) (run script party wire') := by
  have hends := exists_ended_run script party hclosed h.steady
  have hclosed' : wire'.incoming.writerClosed = true := by
    rw [← h.incoming]
    exact hclosed
  have hends' := exists_ended_run script party hclosed' h.steady'
  have hcompares := run_extended hscript party h
  generalize run script party wire = short at hends hcompares ⊢
  generalize run script party wire' = long at hends' hcompares ⊢
  rcases hcompares with hsame | hadds
  · have hsent : long.2.outgoing.queue = short.2.outgoing.queue :=
      (congrArg Channel.queue hsame.wire.outgoing).symm
    refine ⟨hends, hends', ?_, fun text htext => ⟨"", ?_⟩, fun summary hresult => ?_,
      fun e hresult _ _ => ?_⟩
    · exact ⟨[], by rw [hsent, List.append_nil]⟩
    · rw [← hsame.party, htext, String.append_empty]
    · rw [← hsame.party]
      exact ⟨hresult, hsent, (congrArg Channel.queue hsame.wire.incoming).symm⟩
    · rw [← hsame.party]
      exact ⟨hresult, hsent⟩
  · obtain ⟨result, hstatus⟩ := hends
    have hcut := hadds.cut
    simp only [CutShort, hstatus] at hcut
    refine ⟨⟨result, hstatus⟩, hends', hadds.sent, fun text htext => hadds.log.text htext,
      fun summary hresult => ?_, fun e hresult hended hinterrupted => ?_⟩
    · simp only [Party.result, hstatus] at hresult
      rw [hresult] at hcut
      exact hcut.elim
    · simp only [Party.result, hstatus] at hresult
      rw [hresult] at hcut
      exact (hcut.elim hended hinterrupted).elim

/-- What a client or a server sends, logs and comes to on a byte string is what it sends, logs and
comes to on any longer one, as far as the first goes: only where the stream ended too early does it
go on. -/
theorem run_on_more_bytes (outgoing : Channel) {port port' : Port} (steady : port.Steady)
    (steady' : port'.Steady) (hfault : port.writeFault = port'.writeFault) (bytes more : Bytes) :
    let short : Wire := { incoming := { queue := bytes, writerClosed := true }, outgoing, port }
    let long : Wire :=
      { incoming := { queue := bytes ++ more, writerClosed := true }, outgoing, port := port' }
    (∀ config party,
      Extends more (run (Client.script config) party short) (run (Client.script config) party long)) ∧
    ∀ config party,
      Extends more (run (Server.script config) party short) (run (Server.script config) party long) := by
  intro short long
  have hmatches : (short.extended more).Matches long := ⟨rfl, rfl, hfault, steady, steady'⟩
  refine ⟨fun config party => ?_, fun config party => ?_⟩
  · exact extends_run (Client.addsToLog_script config) party rfl hmatches
  · exact extends_run (Server.addsToLog_script config) party rfl hmatches

/-- Half a record in front of the end of the stream, and then the rest of it and one byte more: a
client that reads single bytes has sent and logged no more than one that reads all at once. -/
theorem run_on_more_bytes_of_half_a_record :
    let short (port : Port) : Wire :=
      { incoming := { queue := [72, 0, 0, 0, 0, 0], writerClosed := true }, port }
    let long (port : Port) : Wire :=
      { incoming := { queue := [72, 0, 0, 0, 0, 0, 0, 0, 7], writerClosed := true }, port }
    let client : Client.Config :=
      { agreement := x25519, privateKey := List.replicate 32 1, hello := [1], earlyData := 1 }
    let server : Server.Config :=
      { agreement := x25519, privateKey := List.replicate 32 2, random := List.replicate 32 3
        earlyData := 0, rejectEarlyData := false }
    Port.Steady { limit := some 1 } ∧ Port.Steady {} ∧
      ({ limit := some 1 } : Port).writeFault = ({} : Port).writeFault ∧
      (∃ party, Client.start { side := .client, logs := true, random := [5] } {} 0x1301 = .ok party ∧
        Extends [0, 0, 7] (run (Client.script client) party (short { limit := some 1 }))
          (run (Client.script client) party (long {}))) ∧
      ∃ party, Server.start { side := .server } {} 0x1301 = .ok party ∧
        Extends [0, 0, 7] (run (Server.script server) party (short { limit := some 1 }))
          (run (Server.script server) party (long {})) := by
  intro short long client server
  have steady : Port.Steady { limit := some 1 } := ⟨rfl, by decide, by decide⟩
  have steady' : Port.Steady {} := Port.steady_default
  obtain ⟨hclient, hserver⟩ :=
    run_on_more_bytes {} steady steady' rfl [72, 0, 0, 0, 0, 0] [0, 0, 7]
  exact ⟨steady, steady', rfl, ⟨_, rfl, hclient client _⟩, ⟨_, rfl, hserver server _⟩⟩

end Party

end RecordLayer
