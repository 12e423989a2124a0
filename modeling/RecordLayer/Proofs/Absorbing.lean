import Mathlib.Tactic.Common
import RecordLayer.Proofs.Pacing
import RecordLayer.Proofs.Turns

/-!
# What an operation goes by

An operation of a party that does not receive goes by its session and by the
outgoing channel: it is the same whatever there is to read
(`Party.exists_step_of_not_receives`).  An operation that receives goes by its
session and by the chunk that its read gives, and from the wire it only reads
(`Party.exists_step_of_chunk`).  `Party.step_cases` says that there are no others.

`Party.absorb` is what a party makes of a chunk.  Two chunks one after the other
come to what both come to at once (`Party.absorbing_grown`).
-/

namespace RecordLayer

/-! ## Chunks of a record under way -/

namespace Intake

theorem grown_grown (intake : Intake) (chunk more : Bytes) :
    (intake.grown chunk).grown more = intake.grown (chunk ++ more) := by
  simp only [grown, List.reverseAux_eq, List.reverse_append, List.append_assoc, List.length_append,
    Nat.sub_sub]

/-- A chunk that does not complete the part under way can be taken in before the rest. -/
theorem feed_grown {intake : Intake} {chunk : Bytes} (hlt : chunk.length < intake.missing)
    (more : Bytes) : (intake.grown chunk).feed more = intake.feed (chunk ++ more) := by
  have hmissing : (intake.grown chunk).missing = intake.missing - chunk.length := rfl
  have hlength : (chunk ++ more).length = chunk.length + more.length := List.length_append
  by_cases hmore : more.length < (intake.grown chunk).missing
  · rw [feed_of_lt hmore, feed_of_lt (by omega), grown_grown]
  · rw [feed_of_le (by omega), feed_of_le (by omega), complete_grown]

end Intake

namespace Transport

theorem takeIn_of_lt {intake : Intake} {chunk : Bytes} (hne : chunk ≠ [])
    (hlt : chunk.length < intake.missing) (transport : Transport) :
    takeIn intake (.ok chunk) transport =
      { result := .ok (.inl (intake.grown chunk)), state := transport } := by
  obtain ⟨byte, chunk, rfl⟩ := List.exists_cons_of_ne_nil hne
  rw [takeIn, Act.ofResult_bind (Intake.feed_of_lt hlt)]
  · rfl
  · rintro ⟨⟩

/-- What is taken in goes by what the part under way makes of it. -/
theorem takeIn_congr {intake intake' : Intake} {chunk chunk' : Bytes} (hne : chunk ≠ [])
    (hne' : chunk' ≠ []) (h : intake.feed chunk = intake'.feed chunk') :
    takeIn intake (.ok chunk) = takeIn intake' (.ok chunk') := by
  obtain ⟨byte, chunk, rfl⟩ := List.exists_cons_of_ne_nil hne
  obtain ⟨byte', chunk', rfl⟩ := List.exists_cons_of_ne_nil hne'
  simp only [takeIn, h]

/-- Two chunks one after the other come to what both come to at once. -/
theorem takeIn_grown {intake : Intake} {chunk more : Bytes} (hlt : chunk.length < intake.missing)
    (hne : more ≠ []) :
    takeIn (intake.grown chunk) (.ok more) = takeIn intake (.ok (chunk ++ more)) :=
  takeIn_congr hne (List.append_ne_nil_of_right_ne_nil chunk hne) (Intake.feed_grown hlt more)

end Transport

/-! ## Ends that may be closed -/

namespace Wire

/-- The wire as a failure leaves it: some close their end. -/
def closedIf (wire : Wire) (closes : Bool) : Wire := if closes then wire.close else wire

theorem writerClosed_closedIf (wire : Wire) (closes : Bool) :
    (wire.closedIf closes).incoming.writerClosed = wire.incoming.writerClosed := by
  cases closes <;> rfl

theorem sent_closedIf (wire : Wire) (closes : Bool) :
    (wire.closedIf closes).outgoing.queue = wire.outgoing.queue := by
  cases closes <;> rfl

theorem steady_closedIf {wire : Wire} (steady : wire.port.Steady) (closes : Bool) :
    (wire.closedIf closes).port.Steady := by
  cases closes <;> exact steady

theorem Matches.closedIf {wire wire' : Wire} (h : wire.Matches wire') (closes : Bool) :
    (wire.closedIf closes).Matches (wire'.closedIf closes) := by
  cases closes with
  | false => exact h
  | true => exact h.close

end Wire

/-! ## Actions that hear nothing -/

namespace Seat

variable {α β : Type}

/-- The seat with another incoming channel, read as a port tells. -/
def hearing (seat : Seat) (incoming : Channel) (port : Port) : Seat :=
  { seat with wire := seat.wire.hearing incoming port }

/-- An action neither reads from the wire nor minds what there is to read. -/
def Deaf (action : Act Seat α) : Prop :=
  ∀ seat incoming port, action (seat.hearing incoming port) =
    { action seat with state := (action seat).state.hearing incoming port }

theorem deaf_pure (a : α) : Deaf (pure a) := fun _ _ _ => rfl

theorem deaf_bind {first : Act Seat α} {second : α → Act Seat β} (hfirst : Deaf first)
    (hsecond : ∀ a, Deaf (second a)) : Deaf (first >>= second) := by
  intro seat incoming port
  rw [Act.bind_apply, Act.bind_apply, hfirst seat incoming port]
  generalize first seat = outcome
  obtain ⟨result, state, notes⟩ := outcome
  cases result with
  | error e => rfl
  | ok a =>
    dsimp only
    rw [hsecond a state incoming port]

theorem deaf_discard {action : Act Seat α} (h : Deaf action) : Deaf (discard action) :=
  deaf_bind h fun _ => deaf_pure _

/-- A sequence on the session is a sequence of actions on the session. -/
theorem onSession_bind (first : Act Session α) (second : α → Act Session β) :
    onSession (first >>= second) = onSession first >>= fun a => onSession (second a) := by
  funext seat
  simp only [onSession, Act.focus_apply, Act.bind_apply]
  cases first seat.toSession with
  | mk result session notes => cases result <;> rfl

theorem deaf_onSession (action : Act Session α) : Deaf (onSession action) := fun _ _ _ => rfl

/-- Writing a record hears nothing. -/
theorem deaf_writeRecord (type : Code) (data : Bytes) :
    Deaf (onConnection (Connection.writeRecord type data)) := by
  intro seat incoming port
  rw [onConnection_apply, onConnection_apply, Connection.writeRecord_eq, Connection.writeRecord_eq]
  cases RecordType.sendable? type with
  | none => rfl
  | some type =>
    have hstamp : (seat.hearing incoming port).connection.transport = seat.connection.transport := rfl
    rw [hstamp]
    dsimp only
    cases (seat.connection.transport.write.stamp type data).encode with
    | error e => rfl
    | ok bytes =>
      dsimp only
      have hsend := Wire.send_hearing seat.connection.wire bytes incoming port
      have hwire : (seat.hearing incoming port).connection.wire =
          seat.connection.wire.hearing incoming port := rfl
      rw [hwire, hsend]
      generalize seat.connection.wire.send bytes = sent
      obtain ⟨result, wire⟩ := sent
      cases result with
      | error e => rfl
      | ok u => rfl

end Seat

/-! ## Operations -/

namespace Party

variable {σ ρ : Type} {script : Script σ ρ} {stage : σ} {intake : Intake}
  {party : Party σ ρ}

/-- What a party comes to through an action that leaves its wire alone. -/
theorem exists_settle_onSession (script : Script σ ρ) (party : Party σ ρ)
    (action : Act Session (Status σ ρ)) (session : Session) :
    ∃ party' closes, ∀ wire,
      settle script party (Seat.onSession action { toSession := session, wire }) =
        (party', wire.closedIf closes) := by
  cases haction : action session with
  | mk result session' notes =>
  cases result with
  | error e =>
    refine ⟨{ status := .ended (.error e), session := session', notes := party.notes ++ notes },
      script.closesOnFailure, fun wire => ?_⟩
    simp only [settle, Seat.onSession, Act.focus_apply, haction, Wire.closedIf]
  | ok status =>
    refine ⟨{ status, session := session', notes := party.notes ++ notes }, false, fun wire => ?_⟩
    simp only [settle, Seat.onSession, Act.focus_apply, haction, Wire.closedIf, Bool.false_eq_true,
      if_false]

/-! ### Operations that do not receive -/

theorem deaf_advance (hask : ∀ next, script.ask stage ≠ .receive next) (intake : Intake) :
    Seat.Deaf (advance script stage intake) := by
  unfold advance
  cases h : script.ask stage with
  | send type data next =>
    refine Seat.deaf_bind (Seat.deaf_discard (Seat.deaf_writeRecord _ _)) fun _ => ?_
    exact Seat.deaf_bind (Seat.deaf_onSession next) fun _ => Seat.deaf_pure _
  | receive next => exact (hask next h).elim
  | finish result => exact Seat.deaf_pure _

/-- An operation that does not receive is the same whatever there is to read. -/
theorem exists_step_of_not_receives (hstatus : party.status = .running stage intake)
    (hask : ∀ next, script.ask stage ≠ .receive next) (wire : Wire) :
    ∃ party' sent closes, ∀ incoming port,
      Steps script (party, wire.hearing incoming port)
        (party', (Wire.hearing sent incoming port).closedIf closes) := by
  have hwaits : ∀ wire, waits script stage intake wire = false := by
    intro wire
    unfold waits
    split
    next next h => exact (hask next h).elim
    next => rfl
  have hdeaf := deaf_advance hask intake { toSession := party.session, wire }
  generalize advance script stage intake { toSession := party.session, wire } = outcome at hdeaf
  obtain ⟨result, state, notes⟩ := outcome
  cases result with
  | error e =>
    refine ⟨{ status := .ended (.error e), session := state.toSession, notes := party.notes ++ notes },
      state.wire, script.closesOnFailure, fun incoming port => ?_⟩
    have hadvance : advance script stage intake
        { toSession := party.session, wire := wire.hearing incoming port } = _ :=
      hdeaf incoming port
    simp only [Steps, step?, hstatus, hwaits, hadvance, settle, Wire.closedIf, Bool.false_eq_true,
      if_false]
    rfl
  | ok status =>
    refine ⟨{ status, session := state.toSession, notes := party.notes ++ notes }, state.wire, false,
      fun incoming port => ?_⟩
    have hadvance : advance script stage intake
        { toSession := party.session, wire := wire.hearing incoming port } = _ :=
      hdeaf incoming port
    simp only [Steps, step?, hstatus, hwaits, hadvance, settle, Wire.closedIf, Bool.false_eq_true,
      if_false]
    rfl

/-! ### Operations that receive -/

variable {next : Delivery → Act Session { s : σ // script.rank s ≤ script.rank stage }}

/-- What a party makes of the chunk that a read has given. -/
def absorb (script : Script σ ρ) {p : σ → Prop} (stage : σ)
    (next : Delivery → Act Session { s : σ // p s }) (intake : Intake)
    (chunk : Except StreamError Bytes) : Act Session (Status σ ρ) := do
  match ← Session.onEndpoint (Endpoint.onTransport (Transport.takeIn intake chunk)) with
  | .inl intake => return .running stage intake
  | .inr delivery =>
    let stage ← next delivery
    return enter script stage

/-- The party with its wire after a read, once it has absorbed the chunk. -/
def absorbing (script : Script σ ρ) {p : σ → Prop} (stage : σ)
    (next : Delivery → Act Session { s : σ // p s }) (intake : Intake) (party : Party σ ρ)
    (chunk : Except StreamError Bytes) (wire : Wire) : Party σ ρ × Wire :=
  settle script party
    (Seat.onSession (absorb script stage next intake chunk) { toSession := party.session, wire })

theorem advance_of_receive (hask : script.ask stage = .receive next) (intake : Intake)
    (session : Session) (wire : Wire) :
    advance script stage intake { toSession := session, wire } =
      Seat.onSession (absorb script stage next intake (wire.receive intake.missing).1)
        { toSession := session, wire := (wire.receive intake.missing).2 } := by
  have hread : Seat.onConnection (Connection.receive intake) { toSession := session, wire } =
      Seat.onSession (Session.onEndpoint (Endpoint.onTransport
          (Transport.takeIn intake (wire.receive intake.missing).1)))
        { toSession := session, wire := (wire.receive intake.missing).2 } := rfl
  rw [absorb, Seat.onSession_bind]
  simp only [advance, hask, Act.bind_apply, hread]
  generalize Seat.onSession _ _ = outcome
  obtain ⟨result, seat, notes⟩ := outcome
  cases result with
  | error e => rfl
  | ok arrived =>
  cases arrived with
  | inl intake' => rfl
  | inr delivery =>
    dsimp only
    rw [Seat.onSession_bind]
    rfl

/-- A receiving party goes by the chunk that its read gives. -/
theorem steps_of_chunk (hstatus : party.status = .running stage intake)
    (hask : script.ask stage = .receive next) {chunk : Except StreamError Bytes}
    (hchunk : chunk ≠ .error .wouldBlock) {wire after : Wire}
    (hreceive : wire.receive intake.missing = (chunk, after)) :
    Steps script (party, wire) (absorbing script stage next intake party chunk after) := by
  have hwaits : waits script stage intake wire = false := by
    simp only [waits, hask, hreceive]
  simp only [Steps, step?, hstatus, hwaits, Bool.false_eq_true, if_false, absorbing,
    advance_of_receive hask, hreceive]

/-- A receiving party does nothing to its wire but read from it, and perhaps close it. -/
theorem exists_step_of_chunk (hstatus : party.status = .running stage intake)
    (hask : script.ask stage = .receive next) {chunk : Except StreamError Bytes}
    (hchunk : chunk ≠ .error .wouldBlock) :
    ∃ party' closes, ∀ wire after, wire.receive intake.missing = (chunk, after) →
      Steps script (party, wire) (party', after.closedIf closes) := by
  obtain ⟨party', closes, hsettle⟩ := exists_settle_onSession script party
    (absorb script stage next intake chunk) party.session
  refine ⟨party', closes, fun wire after hreceive => ?_⟩
  rw [← hsettle after]
  exact steps_of_chunk hstatus hask hchunk hreceive

/-! ### What an operation can be -/

/-- A read that is made does not have to wait. -/
theorem chunk_ne_of_steps (hstatus : party.status = .running stage intake)
    (hask : script.ask stage = .receive next) {wire left : Wire} {chunk : Except StreamError Bytes}
    (hreceive : wire.receive intake.missing = (chunk, left)) {after : Party σ ρ × Wire}
    (h : Steps script (party, wire) after) : chunk ≠ .error .wouldBlock := by
  rintro rfl
  have hwaits : waits script stage intake wire = true := by
    simp only [waits, hask, hreceive]
  simp only [Steps, step?, hstatus, if_pos hwaits] at h
  cases h

/-- An operation hears nothing, and then it is the same whatever there is to read, or it goes by
the chunk that its read gives. -/
theorem step_cases {wire : Wire} {after : Party σ ρ × Wire} (h : Steps script (party, wire) after) :
    (∃ party' sent closes,
      after = (party', (Wire.hearing sent wire.incoming wire.port).closedIf closes) ∧
      ∀ incoming port, Steps script (party, wire.hearing incoming port)
        (party', (Wire.hearing sent incoming port).closedIf closes)) ∨
    ∃ stage intake next chunk left party' closes,
      party.status = .running stage intake ∧ script.ask stage = .receive next ∧
      wire.receive intake.missing = (chunk, left) ∧ chunk ≠ .error .wouldBlock ∧
      after = absorbing script stage next intake party chunk left ∧
      after = (party', Wire.closedIf left closes) ∧
      ∀ wire' left', Wire.receive wire' intake.missing = (chunk, left') →
        Steps script (party, wire') (party', left'.closedIf closes) := by
  cases hstatus : party.status with
  | ended result => exact (not_steps_of_ended hstatus h).elim
  | running stage intake =>
  by_cases hask : ∃ next, script.ask stage = .receive next
  case neg =>
    left
    obtain ⟨party', sent, closes, hstep⟩ := exists_step_of_not_receives hstatus
      (fun next hnext => hask ⟨next, hnext⟩) wire
    exact ⟨party', sent, closes, Option.some.inj (h.symm.trans (hstep wire.incoming wire.port)), hstep⟩
  case pos =>
    right
    obtain ⟨next, hask⟩ := hask
    cases hreceive : wire.receive intake.missing with
    | mk chunk left =>
    have hchunk := chunk_ne_of_steps hstatus hask hreceive h
    obtain ⟨party', closes, hstep⟩ := exists_step_of_chunk hstatus hask hchunk
    exact ⟨stage, intake, next, chunk, left, party', closes, rfl, hask, hreceive, hchunk,
      Option.some.inj (h.symm.trans (steps_of_chunk hstatus hask hchunk hreceive)),
      Option.some.inj (h.symm.trans (hstep wire left hreceive)), hstep⟩

/-! ### Chunks one after the other -/

/-- A chunk that does not complete the part under way makes it grow. -/
theorem absorbing_of_lt {chunk : Bytes} (hne : chunk ≠ []) (hlt : chunk.length < intake.missing)
    (party : Party σ ρ) (wire : Wire) :
    absorbing script stage next intake party (.ok chunk) wire =
      ({ party with status := .running stage (intake.grown chunk) }, wire) := by
  simp only [absorbing, absorb, settle, Seat.onSession, Session.onEndpoint, Endpoint.onTransport,
    Act.focus_apply, Act.bind_apply, Transport.takeIn_of_lt hne hlt, Act.pure_apply,
    List.append_nil]

/-- Two chunks one after the other come to what both come to at once. -/
theorem absorbing_grown {chunk more : Bytes} (hlt : chunk.length < intake.missing)
    (hne : more ≠ []) (party : Party σ ρ) (wire : Wire) :
    absorbing script stage next (intake.grown chunk)
        { party with status := .running stage (intake.grown chunk) } (.ok more) wire =
      absorbing script stage next intake party (.ok (chunk ++ more)) wire := by
  simp only [absorbing, absorb, Transport.takeIn_grown hlt hne]
  rfl

end Party

end RecordLayer
