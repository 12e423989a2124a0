import Mathlib.Tactic.Common
import RecordLayer.KeyAgreement
import RecordLayer.Proofs.ClientAcceptance
import RecordLayer.Proofs.Flights
import RecordLayer.Proofs.Progress
import RecordLayer.Proofs.Schedules

/-!
# Which failure is reported

The stream between two sides may be disturbed at any time (`Exchange.Disturbs`):
the bytes under way are changed, and reads and writes fail as they are told.
`Exchange.Suffers` leads to whatever the operations of both sides, in any
order, and such disturbances come to.

A side that fails closes its end, so its peer never waits for it
(`Exchange.Secure.exists_step`).  `Exchange.FailsFirst` says which side fails
first, and `Exchange.reported` which failure an exchange reports in the end:
after a failure of the server that came from the protocol or the stream, the
failure of the client, whichever was first.  `Exchange.failure_is_reported` is
the result; `Exchange.consequence_is_reported` shows that a cause can be hidden
behind its consequence.
-/

namespace RecordLayer

/-! ## Ends of a wire -/

namespace Wire

/-- This end is closed in both directions. -/
structure Shut (wire : Wire) : Prop where
  reader : wire.incoming.readerClosed = true
  writer : wire.outgoing.writerClosed = true

theorem shut_close (wire : Wire) : wire.close.Shut := ⟨rfl, rfl⟩

/-- The peer's end stays as it is, and no read is made to fail in a new way. -/
structure Follows (before after : Wire) : Prop where
  writer : after.incoming.writerClosed = before.incoming.writerClosed
  reader : after.outgoing.readerClosed = before.outgoing.readerClosed
  faults : ∀ fault ∈ after.port.readFault, ∃ old ∈ before.port.readFault, fault.error = old.error

theorem Follows.refl (wire : Wire) : wire.Follows wire :=
  ⟨rfl, rfl, fun fault h => ⟨fault, h, rfl⟩⟩

theorem Follows.trans {first second third : Wire} (h : first.Follows second)
    (h' : second.Follows third) : first.Follows third where
  writer := h'.writer.trans h.writer
  reader := h'.reader.trans h.reader
  faults := by
    intro fault hfault
    obtain ⟨middle, hmiddle, heq⟩ := h'.faults fault hfault
    obtain ⟨old, hold, heq'⟩ := h.faults middle hmiddle
    exact ⟨old, hold, heq.trans heq'⟩

/-- A fault that has been counted down is the same fault. -/
theorem error_of_strike {fault : Option Fault} {left : Option Fault}
    (h : Fault.strike fault = .ok left) : ∀ f ∈ left, ∃ old ∈ fault, f.error = old.error := by
  intro f hf
  unfold Fault.strike at h
  split at h
  next => cases h; cases hf
  next => cases h
  next count error =>
    cases h
    cases hf
    exact ⟨_, rfl, rfl⟩

theorem follows_receive (wire : Wire) (count : Nat) : wire.Follows (wire.receive count).2 where
  writer := (receive_keeps wire count).2.1
  reader := by rw [outgoing_receive]
  faults := by
    unfold receive
    split
    next => exact fun fault h => ⟨fault, h, rfl⟩
    next =>
      split
      next => exact fun fault h => ⟨fault, h, rfl⟩
      next left hstrike =>
        dsimp only
        split
        next => exact error_of_strike hstrike
        next => exact error_of_strike hstrike

theorem follows_send (wire : Wire) (bytes : Bytes) : wire.Follows (wire.send bytes).2 := by
  unfold send
  split
  next => exact Follows.refl wire
  next =>
    split
    next => exact Follows.refl wire
    next =>
      dsimp only
      split
      next => exact ⟨rfl, rfl, fun fault h => ⟨fault, h, rfl⟩⟩
      next => exact ⟨rfl, rfl, fun fault h => ⟨fault, h, rfl⟩⟩

/-- Every operation leaves the peer's end as it is. -/
theorem lasting_follows : Lasting Follows where
  refl := Follows.refl
  trans := Follows.trans
  writes := by
    intro type data connection
    have hsends := Connection.sends_writeRecord type data connection
    generalize Connection.writeRecord type data connection = outcome at hsends ⊢
    cases hsends with
    | refused cause => exact Follows.refl _
    | @failed bytes error wire hsend =>
      have hfollows := follows_send connection.wire bytes
      rw [hsend] at hfollows
      exact hfollows
    | @sent sendable wire htype fits hsend =>
      have hfollows := follows_send connection.wire
        (connection.transport.write.stamp sendable data).bytes
      rw [hsend] at hfollows
      exact hfollows
  reads := by
    intro intake connection
    have hwire : (Connection.receive intake connection).state.wire =
        (connection.wire.receive intake.missing).2 := by
      rw [Connection.receive]
      rfl
    rw [hwire]
    exact follows_receive connection.wire intake.missing
  closes h := ⟨h.writer, h.reader, h.faults⟩

/-- A read is never one that only asks to wait when the peer's end is closed. -/
theorem receive_ne_wouldBlock {wire : Wire} (hclosed : wire.incoming.writerClosed = true)
    (hfaults : ∀ fault ∈ wire.port.readFault, fault.error ≠ .wouldBlock) (count : Nat) :
    (wire.receive count).1 ≠ .error .wouldBlock := by
  unfold receive
  split
  next => rintro ⟨⟩
  next =>
    split
    next error hstrike =>
      rintro ⟨⟩
      unfold Fault.strike at hstrike
      split at hstrike
      next => cases hstrike
      next error' hfault =>
        cases hstrike
        exact hfaults _ hfault rfl
      next => cases hstrike
    next =>
      dsimp only
      rw [hclosed, Bool.not_true, Bool.and_false, if_neg Bool.false_ne_true]
      rintro ⟨⟩

end Wire

/-! ## One side -/

namespace Party

variable {σ ρ : Type} {script : Script σ ρ}

/-- The failure of a party, if it has failed. -/
def cause? (party : Party σ ρ) : Option Error :=
  match party.status with
  | .ended (.error cause) => some cause
  | _ => none

/-- A script that goes on has not failed. -/
theorem enter_ne_error (script : Script σ ρ) (stage : σ) (cause : Error) :
    enter script stage ≠ .ended (.error cause) := by
  unfold enter
  split
  next => rintro ⟨⟩
  next => rintro ⟨⟩

/-- A sequence that succeeds ends with a second action that does. -/
theorem exists_of_bind_ok {τ α β : Type} {first : Act τ α} {second : α → Act τ β} {s : τ} {b : β}
    (h : ((first >>= second) s).result = .ok b) : ∃ a t, (second a t).result = .ok b := by
  rw [Act.bind_apply] at h
  split at h
  next a t notes hfirst => exact ⟨a, t, h⟩
  next => cases h

/-- An operation that succeeds does not come to a failure. -/
theorem advance_ne_error {stage : σ} {intake : Intake} {seat : Seat} {status : Status σ ρ}
    (h : (advance script stage intake seat).result = .ok status) (cause : Error) :
    status ≠ .ended (.error cause) := by
  have hgoOn : ∀ {p : σ → Prop} (next : Act Session { s : σ // p s }) (seat : Seat),
      ((Seat.onSession next >>= fun s => (pure (enter script s.1) : Act Seat (Status σ ρ)))
        seat).result = .ok status → status ≠ .ended (.error cause) := by
    intro p next seat h
    obtain ⟨s, _, hpure⟩ := exists_of_bind_ok h
    obtain rfl := Except.ok.inj hpure
    exact enter_ne_error script s.1 cause
  unfold advance at h
  cases hask : script.ask stage with
  | send type data next =>
    rw [hask] at h
    obtain ⟨_, seat', h⟩ := exists_of_bind_ok h
    exact hgoOn next seat' h
  | receive next =>
    rw [hask] at h
    obtain ⟨arrived, seat', h⟩ := exists_of_bind_ok h
    cases arrived with
    | inl intake' =>
      obtain rfl := Except.ok.inj h
      rintro ⟨⟩
    | inr delivery => exact hgoOn (next delivery) seat' h
  | finish result =>
    rw [hask] at h
    obtain rfl := Except.ok.inj h
    rintro ⟨⟩

/-- A party that fails closes its end, if its script tells it to. -/
theorem shut_of_failed (hcloses : script.closesOnFailure = true) {before after : Party σ ρ × Wire}
    (h : Steps script before after) (hfailed : after.1.failed = true) : after.2.Shut := by
  obtain ⟨stage, intake, -, -, rfl⟩ := exists_advance_of_steps h
  have hok := @advance_ne_error σ ρ script stage intake
    { toSession := before.1.session, wire := before.2 }
  unfold settle at hfailed ⊢
  split
  next status hresult =>
    rw [hresult] at hfailed
    dsimp only [failed] at hfailed
    split at hfailed
    next cause => exact absurd rfl (hok hresult cause)
    next => cases hfailed
  next cause hresult =>
    dsimp only
    rw [if_pos hcloses]
    exact Wire.shut_close _

/-- A record that the wire does not take ends a script. -/
theorem steps_of_refused {stage : σ} {type : RecordType} {data : Bytes}
    {next : Act Session { s : σ // script.rank s < script.rank stage }}
    (hask : script.ask stage = .send type data next) (notes : List Note) {seat : Seat}
    {cause : Error}
    (hwrite : Connection.writeRecord (.number type.code) data seat.connection =
      { result := .error cause, state := seat.connection }) :
    Steps script (seated stage {} notes seat, seat.wire)
      ({ status := .ended (.error cause), session := seat.toSession, notes },
        if script.closesOnFailure then seat.wire.close else seat.wire) := by
  have hdiscard : (discard (Seat.onConnection (Connection.writeRecord (.number type.code) data)) :
      Act Seat Unit) seat = { result := .error cause, state := seat } := by
    rw [Act.discard_apply, Seat.onConnection_apply, hwrite]
    rfl
  have hstep := steps_of_send hask notes seat
  rw [sending, Act.bind_apply_of_error hdiscard] at hstep
  simpa only [settle, seated, List.append_nil] using hstep

/-- A party does not wait for a peer that has closed its end. -/
theorem exists_step_of_writerClosed {party : Party σ ρ} {stage : σ} {intake : Intake}
    (hstatus : party.status = .running stage intake) {wire : Wire}
    (hclosed : wire.incoming.writerClosed = true)
    (hfaults : ∀ fault ∈ wire.port.readFault, fault.error ≠ .wouldBlock) :
    ∃ after, Steps script (party, wire) after := by
  have hwaits : waits script stage intake wire = false := by
    unfold waits
    split
    next =>
      have hchunk := Wire.receive_ne_wouldBlock hclosed hfaults intake.missing
      split
      next hblock => exact absurd hblock hchunk
      next => rfl
    next => rfl
  refine ⟨settle script party
    (advance script stage intake { toSession := party.session, wire }), ?_⟩
  simp only [Steps, step?, hstatus, hwaits, Bool.false_eq_true, if_false]

end Party

namespace Exchange

variable {config : Config} {hello : Bytes} {side : Side} {before after : Exchange}

/-! ## Both sides -/

/-- The stream is disturbed: other bytes are under way, and the ends read and
fail as they are told.  Nothing is opened or closed, and no read is told to
wait. -/
structure Disturbs (before after : Exchange) : Prop where
  client : after.client = before.client
  server : after.server = before.server
  toClient : ∃ queue, after.link.toClient = { before.link.toClient with queue }
  toServer : ∃ queue, after.link.toServer = { before.link.toServer with queue }
  faults : ∀ side, ∀ fault ∈ (after.link.wire side).port.readFault, fault.error ≠ .wouldBlock

/-- The sides do any number of operations, in any order, on a stream that is
disturbed any number of times. -/
def Suffers (config : Config) (hello : Bytes) : Exchange → Exchange → Prop :=
  Relation.ReflTransGen fun before after => Steps config hello before after ∨ Disturbs before after

theorem Disturbs.party (h : Disturbs before after) (side : Side) :
    after.party side = before.party side := by
  cases side with
  | client => exact h.client
  | server => exact h.server

/-- A disturbance keeps an end as shut as it was. -/
theorem Disturbs.shut (h : Disturbs before after) (hshut : (before.link.wire side).Shut) :
    (after.link.wire side).Shut := by
  obtain ⟨toClient, htoClient⟩ := h.toClient
  obtain ⟨toServer, htoServer⟩ := h.toServer
  cases side with
  | client =>
    refine ⟨?_, ?_⟩
    · show after.link.toClient.readerClosed = true
      rw [htoClient]
      exact hshut.reader
    · show after.link.toServer.writerClosed = true
      rw [htoServer]
      exact hshut.writer
  | server =>
    refine ⟨?_, ?_⟩
    · show after.link.toServer.readerClosed = true
      rw [htoServer]
      exact hshut.reader
    · show after.link.toClient.writerClosed = true
      rw [htoClient]
      exact hshut.writer

/-- Every side that has failed has shut its end, and no read is told to wait. -/
structure Secure (exchange : Exchange) : Prop where
  shut : ∀ side, exchange.failed side = true → (exchange.link.wire side).Shut
  faults : ∀ side, ∀ fault ∈ (exchange.link.wire side).port.readFault, fault.error ≠ .wouldBlock

theorem closesOnFailure_scriptOf (config : Config) (hello : Bytes) (side : Side) :
    (scriptOf config hello side).closesOnFailure = true := by
  cases side <;> rfl

/-- What one end of a link has to do with the other. -/
theorem wire_peer_setWire (link : Link) (side : Side) (wire : Wire) :
    (link.setWire side wire).wire side.peer =
      { incoming := wire.outgoing, outgoing := wire.incoming
        port := (link.wire side.peer).port } := by
  cases side <;> rfl

theorem wire_peer (link : Link) (side : Side) :
    link.wire side.peer =
      { incoming := (link.wire side).outgoing, outgoing := (link.wire side).incoming
        port := (link.wire side.peer).port } := by
  cases side <;> rfl

/-- An operation keeps an exchange secure. -/
theorem Secure.step (secure : Secure before) (h : step? config hello side before = some after) :
    Secure after := by
  obtain ⟨party, wire, hstep, rfl⟩ := step?_eq_some_iff.1 h
  have hsteps : Party.Steps (scriptOf config hello side) (before.party side, before.link.wire side)
      (party, wire) := hstep
  have hfollows : (before.link.wire side).Follows wire :=
    Party.along_of_step Wire.lasting_follows hsteps
  refine ⟨fun side' hfailed => ?_, fun side' => ?_⟩
  · rw [failed_eq] at hfailed
    rw [link_withParty]
    rcases side'.eq_or_eq_peer side with rfl | rfl
    · rw [party_withParty] at hfailed
      rw [Link.wire_setWire]
      exact Party.shut_of_failed (closesOnFailure_scriptOf config hello side') hsteps hfailed
    · rw [party_peer_withParty, ← failed_eq] at hfailed
      have hshut := secure.shut side.peer hfailed
      rw [wire_peer] at hshut
      rw [wire_peer_setWire]
      exact ⟨hfollows.reader.trans hshut.reader, hfollows.writer.trans hshut.writer⟩
  · rw [link_withParty]
    rcases side'.eq_or_eq_peer side with rfl | rfl
    · rw [Link.wire_setWire]
      intro fault hfault
      obtain ⟨old, hold, heq⟩ := hfollows.faults fault hfault
      rw [heq]
      exact secure.faults side' old hold
    · rw [wire_peer_setWire]
      exact secure.faults side.peer

theorem Secure.disturbs (secure : Secure before) (h : Disturbs before after) : Secure after where
  shut := by
    intro side hfailed
    rw [failed_eq, h.party side, ← failed_eq] at hfailed
    exact h.shut (secure.shut side hfailed)
  faults := h.faults

theorem Secure.suffers (secure : Secure before) (h : Suffers config hello before after) :
    Secure after := by
  induction h with
  | refl => exact secure
  | tail _ hnext ih =>
    rcases hnext with ⟨side, hstep⟩ | hdisturbs
    · exact ih.step hstep
    · exact ih.disturbs hdisturbs

/-- Once a side has failed, the other one goes on to its end. -/
theorem Secure.exists_step {exchange : Exchange} (secure : Secure exchange)
    (hfailed : exchange.failed side = true) :
    (∀ side, ∃ result, (exchange.party side).status = .ended result) ∨
      ∃ side after, step? config hello side exchange = some after := by
  have hended : ∃ result, (exchange.party side).status = .ended result := by
    rw [failed_eq, Party.failed] at hfailed
    split at hfailed
    next cause hstatus => exact ⟨_, hstatus⟩
    next => cases hfailed
  cases hstatus : (exchange.party side.peer).status with
  | ended result =>
    left
    intro side'
    rcases side'.eq_or_eq_peer side with rfl | rfl
    · exact hended
    · exact ⟨result, hstatus⟩
  | running stage intake =>
    right
    have hclosed : (exchange.link.wire side.peer).incoming.writerClosed = true := by
      rw [wire_peer]
      exact (secure.shut side hfailed).writer
    have hsteps : ∃ after, Party.Steps (scriptOf config hello side.peer)
        (exchange.party side.peer, exchange.link.wire side.peer) after :=
      Party.exists_step_of_writerClosed hstatus hclosed (secure.faults side.peer)
    obtain ⟨⟨party, wire⟩, hstep⟩ := hsteps
    exact ⟨side.peer, _, step?_eq_some_iff.2 ⟨party, wire, hstep, rfl⟩⟩

/-! ## The first failure -/

/-- A side fails first in what leads to an exchange. -/
def FailsFirst (config : Config) (hello : Bytes) (opening : Exchange) (side : Side)
    (cause : Error) (final : Exchange) : Prop :=
  ∃ before after, Suffers config hello opening before ∧ (∀ side, before.failed side = false) ∧
    step? config hello side before = some after ∧
    (after.party side).status = .ended (.error cause) ∧ Suffers config hello after final

/-- The failure of a side, if it has failed. -/
def cause? (exchange : Exchange) (side : Side) : Option Error :=
  (exchange.party side).cause?

/-- Whether the failure of the client, if there is one, is reported in place of
this failure of the server. -/
def givesWay (cause : Error) : Bool :=
  match cause.family with
  | .protocol | .system => true
  | _ => false

/-- The failure that is reported when a side fails first, and then perhaps the
other one. -/
def reported (first : Side) (cause : Error) (later : Option Error) : Error :=
  match first, later with
  | _, none => cause
  | .client, some later => if givesWay later then cause else later
  | .server, some later => if givesWay cause then later else cause

section

variable {opening final : Exchange}

/-- If a side has failed, one was the first to do so. -/
theorem exists_failsFirst (hclean : ∀ side, opening.failed side = false)
    (h : Suffers config hello opening final) (hfailed : final.failed side = true) :
    ∃ first cause, FailsFirst config hello opening first cause final := by
  induction h generalizing side with
  | refl =>
    rw [hclean side] at hfailed
    cases hfailed
  | @tail before after hrun hnext ih =>
    by_cases hbefore : ∃ side, before.failed side = true
    · obtain ⟨side', hside'⟩ := hbefore
      obtain ⟨first, cause, before', after', hrun', hclean', hstep, hstatus, hrest⟩ := ih hside'
      exact ⟨first, cause, before', after', hrun', hclean', hstep, hstatus, hrest.tail hnext⟩
    have hclean' : ∀ side, before.failed side = false := by
      intro side
      exact Bool.eq_false_iff.2 fun h => hbefore ⟨side, h⟩
    rcases hnext with ⟨side', hstep⟩ | hdisturbs
    · obtain ⟨party, wire, hparty, hafter⟩ := step?_eq_some_iff.1 hstep
      rcases side.eq_or_eq_peer side' with rfl | rfl
      · have hstatus := hfailed
        rw [failed_eq, Party.failed] at hstatus
        split at hstatus
        next cause hcause =>
          exact ⟨side, cause, before, after, hrun, hclean', hstep, hcause,
            Relation.ReflTransGen.refl⟩
        next => cases hstatus
      · rw [failed_eq, ← hafter, party_peer_withParty, ← failed_eq, hclean'] at hfailed
        cases hfailed
    · rw [failed_eq, hdisturbs.party side, ← failed_eq, hclean'] at hfailed
      cases hfailed

/-- A side that has ended does nothing more. -/
theorem status_of_suffers (h : Suffers config hello before after)
    {result : Result (SummaryOf side)} (hended : (before.party side).status = .ended result) :
    (after.party side).status = .ended result := by
  induction h with
  | refl => exact hended
  | tail _ hnext ih =>
    rcases hnext with ⟨side', hstep⟩ | hdisturbs
    · obtain ⟨party, wire, hparty, rfl⟩ := step?_eq_some_iff.1 hstep
      rcases side.eq_or_eq_peer side' with rfl | rfl
      · simp only [Party.step?, ih] at hparty
        cases hparty
      · rw [party_peer_withParty]
        exact ih
    · rw [hdisturbs.party side]
      exact ih

/-- What is reported when both sides have failed. -/
theorem verdict_of_errors {serverCause clientCause : Error}
    (hserver : final.server.status = .ended (.error serverCause))
    (hclient : final.client.status = .ended (.error clientCause)) :
    verdict config final = .error (if givesWay serverCause then clientCause else serverCause) := by
  simp only [verdict, Party.result, hserver, hclient]
  cases hfamily : serverCause.family <;> simp [givesWay, hfamily]

/-- What is reported when both sides have ended and one of them has failed. -/
theorem verdict_of_failsFirst {first : Side} {cause : Error}
    (h : FailsFirst config hello opening first cause final)
    (hended : ∃ result, (final.party first.peer).status = .ended result) :
    verdict config final = .error (reported first cause (final.cause? first.peer)) := by
  obtain ⟨before, after, -, -, -, hstatus, hrest⟩ := h
  have hfirst := status_of_suffers hrest hstatus
  obtain ⟨result, hresult⟩ := hended
  cases first with
  | client =>
    have hclient : final.client.status = .ended (.error cause) := hfirst
    have hserver : final.server.status = .ended result := hresult
    have hcause : final.cause? .server = final.server.cause? := rfl
    cases result with
    | ok summary =>
      simp only [verdict, Party.result, Party.cause?, Side.peer, hcause, hclient, hserver, reported]
    | error later =>
      rw [verdict_of_errors hserver hclient]
      simp only [Party.cause?, Side.peer, hcause, hserver, reported]
  | server =>
    have hserver : final.server.status = .ended (.error cause) := hfirst
    have hclient : final.client.status = .ended result := hresult
    have hcause : final.cause? .client = final.client.cause? := rfl
    cases result with
    | ok summary =>
      simp only [verdict, Party.result, Party.cause?, Side.peer, hcause, hclient, hserver, reported]
    | error later =>
      rw [verdict_of_errors hserver hclient]
      simp only [Party.cause?, Side.peer, hcause, hclient, reported]

/-- Both ends of a link are shut in the end. -/
theorem shut_wire_close (exchange : Exchange) (side : Side) :
    (exchange.close.link.wire side).Shut := by
  cases side <;> exact ⟨rfl, rfl⟩

/-- Nobody has failed at the start, and no read is told to wait. -/
theorem clean_of_start {log : KeyLog} (h : start config log = .ok (opening, hello)) :
    (∀ side, opening.failed side = false) ∧ Secure opening := by
  have hclean : (∀ side, opening.failed side = false) ∧ opening.link = {} := by
    unfold start at h
    split at h
    next => cases h
    next =>
      cases hschedule : KeySchedule.start config.suite with
      | error e =>
        simp only [Server.start, hschedule] at h
        cases h
      | ok schedule =>
        cases hhello : clientHello config with
        | error e =>
          simp only [Server.start, hschedule, hhello] at h
          cases h
        | ok bytes =>
          simp only [Server.start, Client.start, hschedule, hhello] at h
          obtain ⟨rfl, rfl⟩ := Prod.mk.inj (Except.ok.inj h)
          refine ⟨fun side => ?_, rfl⟩
          cases side <;> rfl
  refine ⟨hclean.1, fun side hfailed => ?_, fun side fault hfault => ?_⟩
  · rw [hclean.1 side] at hfailed
    cases hfailed
  · rw [hclean.2] at hfault
    cases side <;> cases hfault

/-- What becomes of an exchange of which a side has failed, on a stream that is
disturbed in any way and at any time.

Whoever has failed has shut its end.  No order of operations goes on forever,
and none gets stuck before both sides have ended; then both ends are shut, one
side was the first to fail, and a failure is reported.  It is the one of
`reported`: the failure of the side that failed first, except that a failure of
the server from the protocol or the stream gives way to any failure of the
client, also a later one, and that any other failure of the server is reported
before that of the client, also an earlier one. -/
theorem failure_is_reported {log : KeyLog} (hstart : start config log = .ok (opening, hello))
    (hrun : Suffers config hello opening final) (hfailed : ∃ side, final.failed side = true) :
    (∀ side, final.failed side = true → (final.link.wire side).Shut) ∧
    (WellFounded fun after before => Steps config hello before after) ∧
    ((∃ side next, step? config hello side final = some next) ∨
      (∀ side, ∃ result, (final.party side).status = .ended result) ∧
      (∀ side, (final.close.link.wire side).Shut) ∧
      (∃ first cause, FailsFirst config hello opening first cause final) ∧
      ∀ first cause, FailsFirst config hello opening first cause final →
        verdict config final.close = .error (reported first cause (final.cause? first.peer))) := by
  obtain ⟨hclean, hsecure⟩ := clean_of_start hstart
  obtain ⟨side, hfailed⟩ := hfailed
  have secure := hsecure.suffers hrun
  refine ⟨secure.shut, wellFounded_steps config hello, ?_⟩
  rcases secure.exists_step hfailed with hended | hstep
  · right
    refine ⟨hended, shut_wire_close final, exists_failsFirst hclean hrun hfailed, ?_⟩
    intro first cause hfirst
    show verdict config final = _
    exact verdict_of_failsFirst hfirst (hended first.peer)
  · exact Or.inl hstep

end

/-! ## A cause behind its consequence -/

/-- An exchange without early data, under the keys of X25519. -/
def plain : Config where
  agreement := x25519
  clientKey := List.replicate 32 1
  serverKey := List.replicate 32 2
  clientRandom := List.replicate 32 3
  serverRandom := List.replicate 32 4

namespace Plain

/-- Both sides before their first operation, the server at some port. -/
def opening (port : Port) : Exchange where
  client := {
    status := .running .hello {}
    session := {
      transport := { side := .client, random := plain.clientRandom }
      log := {}, schedule := { suite := .aes128GcmSha256 } } }
  server := {
    status := .running .clientHello {}
    session := {
      transport := { side := .server }, log := {}, schedule := { suite := .aes128GcmSha256 } } }
  link := { serverPort := port }

/-- The next read fails because the connection was reset. -/
def resetting : Port := { readFault := some { after := 0, error := .connectionReset } }

/-- The server has lost the connection. -/
def serverLost : Exchange where
  client := (opening resetting).client
  server := { (opening resetting).server with
    status := .ended (.error (.stream .connectionReset)) }
  link := (opening resetting).link.setWire .server ((opening resetting).link.wire .server).close

/-- The client has found that the server has closed its end. -/
def bothLost : Exchange where
  client := { (opening resetting).client with status := .ended (.error (.stream .brokenPipe)) }
  server := serverLost.server
  link := serverLost.link.setWire .client (serverLost.link.wire .client).close

theorem exists_start : ∃ hello, start plain {} = .ok (opening {}, hello) ∧
    (Epoch.stamp {} .handshake hello).Fits := by
  obtain ⟨hello, message, hhello, hshort, -, -⟩ := Message.exists_clientHello
    (plain.agreement.length_publicKey plain.clientKey) (rfl : plain.clientRandom.length = 32)
    .aes128GcmSha256 false
  have hwritten : clientHello plain = .ok hello := hhello
  refine ⟨hello, ?_, Epoch.fits_stamp_default .handshake hshort⟩
  rw [start, if_neg (by decide), hwritten]
  rfl

theorem disturbs_opening : Disturbs (opening {}) (opening resetting) where
  client := rfl
  server := rfl
  toClient := ⟨[], rfl⟩
  toServer := ⟨[], rfl⟩
  faults := by
    intro side fault hfault
    cases side with
    | client => cases hfault
    | server =>
      cases hfault
      rintro ⟨⟩

/-- The server fails first. -/
theorem step_server (hello : Bytes) :
    step? plain hello .server (opening resetting) = some serverLost := rfl

/-- The client fails because the server has. -/
theorem step_client {hello : Bytes} (h : (Epoch.stamp {} .handshake hello).Fits) :
    step? plain hello .client serverLost = some bothLost := by
  have hencode : (Epoch.stamp {} .handshake hello).encode =
      .ok (Epoch.stamp {} .handshake hello).bytes := Record.encode_eq_ok_iff.2 ⟨h, rfl⟩
  let seat : Seat :=
    { toSession := serverLost.client.session, wire := serverLost.link.wire .client }
  have hwrite : Connection.writeRecord (.number RecordType.handshake.code) hello seat.connection =
      { result := .error (.stream .brokenPipe), state := seat.connection } := by
    have htype : RecordType.sendable? (.number RecordType.handshake.code) = some .handshake := rfl
    have hstamp : seat.connection.transport.write.stamp .handshake hello =
        Epoch.stamp {} .handshake hello := rfl
    rw [Connection.writeRecord_eq, htype]
    dsimp only
    rw [hstamp, hencode]
    rfl
  have hstep : Party.step? (clientScript plain hello) serverLost.client
      (serverLost.link.wire .client) = _ := Party.steps_of_refused rfl [] hwrite
  simp only [step?, hstep]
  rfl

theorem failsFirst {hello : Bytes} (h : (Epoch.stamp {} .handshake hello).Fits) :
    FailsFirst plain hello (opening {}) .server (.stream .connectionReset) bothLost := by
  refine ⟨opening resetting, serverLost, .single (Or.inr disturbs_opening), ?_, step_server hello,
    rfl, .single (Or.inl ⟨.client, step_client h⟩)⟩
  intro side
  cases side <;> rfl

theorem suffers {hello : Bytes} (h : (Epoch.stamp {} .handshake hello).Fits) :
    Suffers plain hello (opening {}) bothLost := by
  have hdisturbed : Suffers plain hello (opening {}) (opening resetting) :=
    .single (Or.inr disturbs_opening)
  have hserver : Suffers plain hello (opening {}) serverLost :=
    hdisturbed.tail (Or.inl ⟨.server, step_server hello⟩)
  exact hserver.tail (Or.inl ⟨.client, step_client h⟩)

end Plain

/-- A read of the server fails because the connection was reset, and so does the
client's first write because the server has closed its end. -/
theorem failure_is_reported_of_reset :
    ∃ opening hello final, start plain {} = .ok (opening, hello) ∧
      Suffers plain hello opening final ∧ (∃ side, final.failed side = true) ∧
      (∀ side, final.failed side = true → (final.link.wire side).Shut) ∧
      (WellFounded fun after before => Steps plain hello before after) ∧
      ((∃ side next, step? plain hello side final = some next) ∨
        (∀ side, ∃ result, (final.party side).status = .ended result) ∧
        (∀ side, (final.close.link.wire side).Shut) ∧
        (∃ first cause, FailsFirst plain hello opening first cause final) ∧
        ∀ first cause, FailsFirst plain hello opening first cause final →
          verdict plain final.close =
            .error (reported first cause (final.cause? first.peer))) := by
  obtain ⟨hello, hstart, hfits⟩ := Plain.exists_start
  have hfailed : ∃ side, Plain.bothLost.failed side = true := ⟨.server, rfl⟩
  exact ⟨_, hello, _, hstart, Plain.suffers hfits, hfailed,
    failure_is_reported hstart (Plain.suffers hfits) hfailed⟩

/-- The failure that comes first need not be the one that is reported: here the
server has lost the connection, but what is reported is that the client could
not write to it any more. -/
theorem consequence_is_reported :
    ∃ opening hello final, start plain {} = .ok (opening, hello) ∧
      FailsFirst plain hello opening .server (.stream .connectionReset) final ∧
      (∀ side, ∃ result, (final.party side).status = .ended result) ∧
      verdict plain final.close = .error (.stream .brokenPipe) ∧
      verdict plain final.close ≠ .error (.stream .connectionReset) := by
  obtain ⟨hello, hstart, hfits⟩ := Plain.exists_start
  have hverdict : verdict plain Plain.bothLost.close = .error (.stream .brokenPipe) := rfl
  refine ⟨_, hello, _, hstart, Plain.failsFirst hfits, fun side => ?_, hverdict, ?_⟩
  · cases side with
    | client => exact ⟨_, rfl⟩
    | server => exact ⟨_, rfl⟩
  · rw [hverdict]
    rintro ⟨⟩

end Exchange

end RecordLayer
