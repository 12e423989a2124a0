import Mathlib.Tactic.Common
import RecordLayer.Proofs.Leading
import RecordLayer.Proofs.Turns

/-!
# Operations are local

What one operation of a party takes off its wire and puts on it does not
depend on what stands behind the bytes that it takes or before those that it
puts: `Party.exists_moves`.  This holds as long as only whole records stand in
the incoming channel, behind the rest of the record under way
(`Party.Ready`), since a party with too few bytes would take fewer.

An operation that does not fail keeps a party ready, and puts whole records
on the wire.
-/

namespace RecordLayer

/-! ## Records under way -/

/-- A part of a record is under way, and the bytes that are there go on with
the rest of the record and whole records after it. -/
inductive Intake.Fed : Intake → Bytes → Prop where
  | header (records : List Record) (fits : ∀ record ∈ records, record.Fits) :
    Fed {} (Record.stream records)
  | body (header : Header) (hpos : 0 < header.length) (body : Bytes)
    (hbody : body.length = header.length.toNat) (records : List Record)
    (fits : ∀ record ∈ records, record.Fits) :
    Fed { header := some header, missing := header.length.toNat } (body ++ Record.stream records)

namespace Intake

theorem Fed.append {intake : Intake} {unread : Bytes} (fed : intake.Fed unread)
    {records : List Record} (fits : ∀ record ∈ records, record.Fits) :
    intake.Fed (unread ++ Record.stream records) := by
  have hboth : ∀ earlier : List Record, (∀ record ∈ earlier, record.Fits) →
      ∀ record ∈ earlier ++ records, record.Fits := by
    intro earlier fits' record hrecord
    rcases List.mem_append.1 hrecord with h | h
    · exact fits' record h
    · exact fits record h
  cases fed with
  | header earlier fits' =>
    rw [← Record.stream_append]
    exact .header _ (hboth earlier fits')
  | body header hpos body hbody earlier fits' =>
    rw [List.append_assoc, ← Record.stream_append]
    exact .body header hpos body hbody _ (hboth earlier fits')

/-- If there are bytes at all, there are enough for the part under way. -/
theorem Fed.missing_le {intake : Intake} {unread : Bytes} (fed : intake.Fed unread)
    (h : unread ≠ []) : 0 < intake.missing ∧ intake.missing ≤ unread.length := by
  cases fed with
  | header records fits =>
    cases records with
    | nil => exact absurd rfl h
    | cons record records =>
      refine ⟨by decide, ?_⟩
      rw [Record.stream_cons, List.length_append, Record.length_bytes]
      show 8 ≤ _
      omega
  | body header hpos body hbody records fits =>
    refine ⟨by dsimp only; omega, ?_⟩
    rw [List.length_append, hbody]
    exact Nat.le_add_right _ _

/-- The part under way is completed, and what comes next goes on from there. -/
theorem Fed.feed {intake : Intake} {unread : Bytes} (fed : intake.Fed unread) (h : unread ≠ []) :
    (∃ intake', intake.feed (unread.take intake.missing) = .ok (.awaiting intake') ∧
      intake'.Fed (unread.drop intake.missing)) ∨
    ∃ header body, intake.feed (unread.take intake.missing) = .ok (.whole header body) ∧
      Fed {} (unread.drop intake.missing) := by
  have hle := (fed.missing_le h).2
  have htaken : intake.missing ≤ (unread.take intake.missing).length := by
    rw [List.length_take]
    omega
  rw [feed_of_le htaken]
  cases fed with
  | header records fits =>
    cases records with
    | nil => exact absurd rfl h
    | cons record records =>
      have hfits := fits record List.mem_cons_self
      have hrest := fun r hr => fits r (List.mem_cons_of_mem _ hr)
      have hfront := Front.of_bytes_append hfits (Record.stream records)
      have height : ((Record.stream (record :: records)).take 8).length = 8 := by
        rw [List.length_take]
        exact Nat.min_eq_left hle
      obtain ⟨header, hdecode, hnonneg⟩ := Front.exists_header height
      have hsplit := @Front.of_append _ ((Record.stream (record :: records)).drop 8) _ hdecode
      rw [List.take_append_drop, Record.stream_cons, hfront] at hsplit
      have hcomplete : complete {} ((Record.stream (record :: records)).take 8) =
          .ok (startBody header) := by
        show (Header.decode ([].reverse ++ (Record.stream (record :: records)).take 8)).map _ = _
        rw [List.reverse_nil, List.nil_append, hdecode]
        rfl
      show (∃ intake', complete {} ((Record.stream (record :: records)).take 8) = _ ∧
          Fed intake' ((Record.stream (record :: records)).drop 8)) ∨
        ∃ header body, complete {} ((Record.stream (record :: records)).take 8) = _ ∧
          Fed {} ((Record.stream (record :: records)).drop 8)
      rw [hcomplete, startBody]
      rw [← Record.stream_cons] at hsplit
      generalize (Record.stream (record :: records)).drop 8 = after at hsplit ⊢
      by_cases hbody : header.length ≤ after.length
      case neg => rw [if_neg hbody] at hsplit; cases hsplit
      rw [if_pos hbody] at hsplit
      obtain ⟨-, -, hdrop⟩ := Front.whole.inj hsplit
      by_cases hzero : header.length ≤ 0
      · right
        rw [if_pos hzero]
        refine ⟨header, [], rfl, ?_⟩
        rw [show header.length.toNat = 0 by omega, List.drop_zero] at hdrop
        rw [← hdrop]
        exact .header records hrest
      · left
        rw [if_neg hzero]
        refine ⟨_, rfl, ?_⟩
        have hafter := List.take_append_drop header.length.toNat after
        rw [← hdrop] at hafter
        rw [← hafter]
        refine .body header (by omega) _ ?_ records hrest
        rw [List.length_take]
        omega
  | body header hpos body hbody records fits =>
    right
    refine ⟨header, body, ?_, ?_⟩
    · dsimp only
      rw [← hbody, List.take_left]
      rfl
    · dsimp only
      rw [← hbody, List.drop_left]
      exact .header records fits

end Intake

/-! ## Wires between two open ends -/

/-- A wire with both ends open, with bytes in its two channels. -/
def Wire.between (unread sent : Bytes) : Wire :=
  { incoming := { queue := unread }, outgoing := { queue := sent } }

theorem Wire.accepts_between (unread sent : Bytes) : (between unread sent).Accepts :=
  ⟨rfl, rfl, rfl⟩

theorem Wire.steady_between (unread sent : Bytes) : (between unread sent).port.Steady :=
  Port.steady_default

/-- A read takes no more than it asks for, whatever stands behind that. -/
theorem Wire.receive_between {unread : Bytes} {count : Nat} (hne : unread ≠ [])
    (hle : count ≤ unread.length) (more sent : Bytes) :
    (between (unread ++ more) sent).receive count =
      (.ok (unread.take count), between ((unread ++ more).drop count) sent) := by
  have hempty : (unread ++ more).isEmpty = false := by
    cases unread with
    | nil => exact absurd rfl hne
    | cons => rfl
  simp only [receive, between, Fault.strike, hempty, Bool.false_and, Bool.false_eq_true, if_false,
    allowance, List.splitAt_eq, List.take_append_of_le_length hle, List.tail_nil]

/-- What is left after a read is what the party still needs. -/
theorem Transport.fed_of_takeIn {intake : Intake} {unread : Bytes} (fed : intake.Fed unread)
    (hne : unread ≠ []) (transport : Transport) :
    match (takeIn intake (.ok (unread.take intake.missing)) transport).result with
    | .error _ => True
    | .ok (.inl intake') => intake'.Fed (unread.drop intake.missing)
    | .ok (.inr _) => Intake.Fed {} (unread.drop intake.missing) := by
  obtain ⟨hpos, hle⟩ := fed.missing_le hne
  have hchunk : unread.take intake.missing ≠ [] := by
    rw [← List.length_pos_iff, List.length_take]
    omega
  have hfeeds := fed.feed hne
  generalize unread.take intake.missing = chunk at hchunk hfeeds
  obtain ⟨byte, chunk, rfl⟩ := List.exists_cons_of_ne_nil hchunk
  simp only [takeIn]
  rcases hfeeds with ⟨intake', hfeed, hfed⟩ | ⟨header, body, hfeed, hfed⟩
  · rw [Act.ofResult_bind hfeed]
    exact hfed
  · rw [Act.ofResult_bind hfeed]
    dsimp only
    cases haccept : accept header body transport with
    | mk result transport' notes =>
    cases result with
    | error e =>
      rw [Act.bind_apply_of_error haccept]
      exact trivial
    | ok delivery? =>
      rw [Act.bind_apply_of_ok haccept]
      cases delivery? <;> exact hfed

namespace Party

variable {σ ρ : Type} {script : Script σ ρ}

/-- Whole records stand behind the rest of the record under way, and a record
can only be under way where the script receives. -/
def Ready (script : Script σ ρ) (status : Status σ ρ) (unread : Bytes) : Prop :=
  match status with
  | .ended _ => True
  | .running stage intake =>
    intake.Fed unread ∧ (intake = {} ∨ ∃ next, script.ask stage = .receive next)

theorem Ready.append {status : Status σ ρ} {unread : Bytes} (ready : Ready script status unread)
    {records : List Record} (fits : ∀ record ∈ records, record.Fits) :
    Ready script status (unread ++ Record.stream records) := by
  cases status with
  | ended result => exact trivial
  | running stage intake => exact ⟨ready.1.append fits, ready.2⟩

theorem ready_enter {unread : Bytes} (fed : Intake.Fed {} unread) (stage : σ) :
    Ready script (enter script stage) unread := by
  unfold enter
  split
  next => exact trivial
  next => exact ⟨fed, Or.inl rfl⟩

/-- What an operation of a party comes to, wherever its wire goes on. -/
structure Moves (script : Script σ ρ) (party : Party σ ρ) (unread : Bytes) (party' : Party σ ρ)
    (taken : Nat) (written : Bytes) (closes : Bool) : Prop where
  step : ∀ more sent, step? script party (.between (unread ++ more) sent) =
    some (party',
      if closes then (Wire.between ((unread ++ more).drop taken) (sent ++ written)).close
      else Wire.between ((unread ++ more).drop taken) (sent ++ written))
  taken_le : taken ≤ unread.length
  closed : closes = true → party'.failed = true
  ready : party'.failed = false → Ready script party'.status (unread.drop taken)
  records : ∃ records, (∀ record ∈ records, record.Fits) ∧ written = Record.stream records

/-- An operation is local if what it leaves behind is. -/
theorem moves_of_advance {stage : σ} {intake : Intake} {session session' : Session}
    {notes notes' : List Note} {unread written : Bytes} {taken : Nat}
    {result : Result (Status σ ρ)}
    (hwaits : ∀ more sent, waits script stage intake (.between (unread ++ more) sent) = false)
    (hadvance : ∀ more sent,
      advance script stage intake
          { toSession := session, wire := .between (unread ++ more) sent } =
        { result
          state := { toSession := session'
                     wire := .between ((unread ++ more).drop taken) (sent ++ written) }
          notes := notes' })
    (hle : taken ≤ unread.length)
    (hready : ∀ status, result = .ok status → Ready script status (unread.drop taken))
    (hrecords : ∃ records, (∀ record ∈ records, record.Fits) ∧ written = Record.stream records) :
    ∃ party' closes, Moves script { status := .running stage intake, session, notes } unread
      party' taken written closes := by
  cases result with
  | error e =>
    refine ⟨{ status := .ended (.error e), session := session', notes := notes ++ notes' },
      script.closesOnFailure, ?_, hle, fun _ => rfl, by rintro ⟨⟩, hrecords⟩
    intro more sent
    simp only [step?, hwaits, hadvance, settle, Bool.false_eq_true, if_false]
  | ok status =>
    refine ⟨{ status, session := session', notes := notes ++ notes' }, false, ?_, hle,
      by rintro ⟨⟩, fun _ => hready status rfl, hrecords⟩
    intro more sent
    simp only [step?, hwaits, hadvance, settle, Bool.false_eq_true, if_false]

/-- A turn that goes on to another stage, or fails to, leaves the wire alone. -/
theorem goOn_apply {p : σ → Prop} (next : Act Session { s : σ // p s }) (session : Session) :
    ∃ (result : Result (Status σ ρ)) (session' : Session) (notes : List Note),
      (∀ wire, goOn script next { toSession := session, wire } =
        { result, state := { toSession := session', wire }, notes }) ∧
      ∀ status, result = .ok status → ∃ stage, status = enter script stage := by
  cases hnext : next session with
  | mk result session' notes =>
  cases result with
  | error e =>
    refine ⟨.error e, session', notes, ?_, by rintro status ⟨⟩⟩
    intro wire
    simp only [goOn, Seat.onSession, Act.bind_apply, Act.focus_apply, hnext]
  | ok stage =>
    refine ⟨.ok (enter script stage), session', notes, ?_, ?_⟩
    · intro wire
      simp only [goOn, Seat.onSession, Act.bind_apply, Act.focus_apply, hnext, Act.pure_apply,
        List.append_nil]
    · intro status h
      exact ⟨stage, (Except.ok.inj h).symm⟩

/-- An operation that sends is local. -/
theorem moves_of_send {stage : σ} {type : RecordType} {data : Bytes}
    {next : Act Session { s : σ // script.rank s < script.rank stage }}
    (hask : script.ask stage = .send type data next) (session : Session) (notes : List Note)
    {unread : Bytes} (fed : Intake.Fed {} unread) :
    ∃ taken written party' closes, Moves script { status := .running stage {}, session, notes }
      unread party' taken written closes := by
  have hwaits : ∀ more sent, waits script stage {} (.between (unread ++ more) sent) = false := by
    simp only [waits, hask, implies_true]
  have hadvance : ∀ wire, advance script stage {} { toSession := session, wire } =
      sending script type data next { toSession := session, wire } := by
    intro wire
    simp only [advance, hask]
    rfl
  have hwrite := Connection.writeRecord_cases (.number type.code) data session.transport session.log
  have hnone : ∃ records : List Record, (∀ record ∈ records, record.Fits) ∧
      [] = Record.stream records := ⟨[], by simp, rfl⟩
  rcases hwrite with ⟨e, herror⟩ | ⟨record, fits, hwritten⟩
  · have hfailed : ∀ more sent, advance script stage {}
        { toSession := session, wire := .between (unread ++ more) sent } =
          { result := .error e
            state := { toSession := session
                       wire := .between ((unread ++ more).drop 0) (sent ++ []) }
            notes := [] } := by
      intro more sent
      rw [hadvance, sending, Act.bind_apply, Act.discard_apply, Seat.onConnection_apply]
      simp only [Seat.connection, herror, List.drop_zero, List.append_nil]
      rfl
    exact ⟨0, [], moves_of_advance hwaits hfailed (Nat.zero_le _) (by rintro _ ⟨⟩) hnone⟩
  · obtain ⟨result, session', notes', hnext, hstatus⟩ := @goOn_apply σ ρ script _ next (counted session)
    have hsent : ∀ more sent, advance script stage {}
        { toSession := session, wire := .between (unread ++ more) sent } =
          { result
            state := { toSession := session'
                       wire := .between ((unread ++ more).drop 0) (sent ++ record.bytes) }
            notes := [.sent record] ++ notes' } := by
      intro more sent
      have hone : discard (Seat.onConnection (Connection.writeRecord (.number type.code) data))
          { toSession := session, wire := .between (unread ++ more) sent } =
            { result := .ok ()
              state := { toSession := counted session
                         wire := .between (unread ++ more) (sent ++ record.bytes) }
              notes := [.sent record] } := by
        rw [Act.discard_apply, Seat.onConnection_apply]
        simp only [Seat.connection, hwritten _ (Wire.accepts_between _ _)]
        rfl
      rw [hadvance, sending, Act.bind_apply_of_ok hone, hnext]
      rfl
    refine ⟨0, record.bytes, moves_of_advance hwaits hsent (Nat.zero_le _) ?_
      ⟨[record], by simpa using fits, by simp [Record.stream]⟩⟩
    intro status h
    obtain ⟨stage', rfl⟩ := hstatus status h
    exact ready_enter fed stage'

/-- An operation that receives is local. -/
theorem moves_of_receive {stage : σ}
    {next : Delivery → Act Session { s : σ // script.rank s ≤ script.rank stage }}
    (hask : script.ask stage = .receive next) {intake : Intake} (session : Session)
    (notes : List Note) {unread : Bytes} (fed : intake.Fed unread) (hne : unread ≠ []) :
    ∃ taken written party' closes, Moves script { status := .running stage intake, session, notes }
      unread party' taken written closes := by
  have hle := (fed.missing_le hne).2
  have hreceive := Wire.receive_between hne hle
  have hwaits : ∀ more sent, waits script stage intake (.between (unread ++ more) sent) = false := by
    intro more sent
    simp only [waits, hask, hreceive]
  have hnone : ∃ records : List Record, (∀ record ∈ records, record.Fits) ∧
      [] = Record.stream records := ⟨[], by simp, rfl⟩
  have hfed := Transport.fed_of_takeIn fed hne session.transport
  cases htake : Transport.takeIn intake (.ok (unread.take intake.missing)) session.transport with
  | mk result transport notes₁ =>
  rw [htake] at hfed
  have hread : ∀ more sent, Seat.onConnection (Connection.receive intake)
      { toSession := session, wire := .between (unread ++ more) sent } =
        { result
          state := { transport, log := session.log, schedule := session.schedule
                     wire := .between ((unread ++ more).drop intake.missing) sent }
          notes := notes₁ } := by
    intro more sent
    rw [Seat.onConnection_apply, Connection.receive]
    simp only [Seat.connection, hreceive, Connection.onTransport_apply, htake]
    rfl
  cases result with
  | error e =>
    have hfailed : ∀ more sent, advance script stage intake
        { toSession := session, wire := .between (unread ++ more) sent } =
          { result := .error e
            state := { transport, log := session.log, schedule := session.schedule
                       wire := .between ((unread ++ more).drop intake.missing) (sent ++ []) }
            notes := notes₁ } := by
      intro more sent
      simp only [advance, hask, Act.bind_apply_of_error (hread more sent), List.append_nil]
    exact ⟨intake.missing, [], moves_of_advance hwaits hfailed hle (by rintro _ ⟨⟩) hnone⟩
  | ok arrived =>
  cases arrived with
  | inl intake' =>
    have hgrown : ∀ more sent, advance script stage intake
        { toSession := session, wire := .between (unread ++ more) sent } =
          { result := .ok (.running stage intake')
            state := { transport, log := session.log, schedule := session.schedule
                       wire := .between ((unread ++ more).drop intake.missing) (sent ++ []) }
            notes := notes₁ } := by
      intro more sent
      simp only [advance, hask, Act.bind_apply_of_ok (hread more sent), List.append_nil,
        Act.pure_apply]
    refine ⟨intake.missing, [], moves_of_advance hwaits hgrown hle ?_ hnone⟩
    intro status h
    obtain rfl := Except.ok.inj h
    exact ⟨hfed, Or.inr ⟨next, hask⟩⟩
  | inr delivery =>
    obtain ⟨result, session', notes₂, hnext, hstatus⟩ := @goOn_apply σ ρ script _ (next delivery)
      { transport, log := session.log, schedule := session.schedule }
    have hdelivered : ∀ more sent, advance script stage intake
        { toSession := session, wire := .between (unread ++ more) sent } =
          { result
            state := { toSession := session'
                       wire := .between ((unread ++ more).drop intake.missing) (sent ++ []) }
            notes := notes₁ ++ notes₂ } := by
      intro more sent
      have hgoOn := hnext (.between ((unread ++ more).drop intake.missing) sent)
      simp only [goOn] at hgoOn
      simp only [advance, hask, Act.bind_apply_of_ok (hread more sent), hgoOn, List.append_nil]
    refine ⟨intake.missing, [], moves_of_advance hwaits hdelivered hle ?_ hnone⟩
    intro status h
    obtain ⟨stage', rfl⟩ := hstatus status h
    exact ready_enter hfed stage'

/-- Every operation of a ready party is local. -/
theorem exists_moves {party : Party σ ρ} {unread sent : Bytes} {after : Party σ ρ × Wire}
    (ready : Ready script party.status unread)
    (h : step? script party (.between unread sent) = some after) :
    ∃ taken written party' closes, Moves script party unread party' taken written closes := by
  obtain ⟨status, session, notes⟩ := party
  cases status with
  | ended result => cases h
  | running stage intake =>
    obtain ⟨fed, hintake⟩ := ready
    cases hask : script.ask stage with
    | send type data next =>
      obtain rfl : intake = {} := by
        rcases hintake with h | ⟨next', h⟩
        · exact h
        · rw [hask] at h
          cases h
      exact moves_of_send hask session notes fed
    | receive next =>
      refine moves_of_receive hask session notes fed ?_
      rintro rfl
      have hwaits : waits script stage intake (.between [] sent) = true :=
        (waits_iff hask intake rfl (Wire.steady_between [] sent)).2 ⟨rfl, rfl⟩
      simp only [step?, if_pos hwaits] at h
      cases h
    | finish result =>
      have hadvance : ∀ more sent, advance script stage intake
          { toSession := session, wire := .between (unread ++ more) sent } =
            { result := .ok (.ended (.ok result))
              state := { toSession := session
                         wire := .between ((unread ++ more).drop 0) (sent ++ []) } } := by
        intro more sent
        simp only [advance, hask, List.drop_zero, List.append_nil]
        rfl
      refine ⟨0, [], moves_of_advance ?_ hadvance (Nat.zero_le _) ?_ ⟨[], by simp, rfl⟩⟩
      · simp only [waits, hask, implies_true]
      · rintro status ⟨⟩
        exact trivial

end Party

end RecordLayer
