import Mathlib.Tactic.Common
import RecordLayer.Proofs.Actions
import RecordLayer.Proofs.Respecting
import RecordLayer.Proofs.Schedules
import RecordLayer.Proofs.Writing

/-!
# What is put on the wire

A party notes every record that it sends.  `Script.Composed.respects` says that its
operations append to the outgoing channel just the records that they note: a write
does, a read and the actions of a script do neither.

The other side takes bytes off a channel while more are put into it, so a channel
does not show all that was written to it.  `Exchange.Writes` adds up what each side
puts on the wire in the course of an exchange, in whatever order the sides take turns,
and `Exchange.Writes.noted` finds the same bytes in the notes of the side.
-/

namespace RecordLayer

/-! ## Notes of records -/

namespace Note

/-- The record that a note says was sent. -/
def sent? : Note → Option Record
  | .sent record => some record
  | _ => none

/-- The records that were noted as sent. -/
def sentRecords (notes : List Note) : List Record := notes.filterMap sent?

@[simp] theorem sentRecords_append (notes more : List Note) :
    sentRecords (notes ++ more) = sentRecords notes ++ sentRecords more :=
  List.filterMap_append ..

end Note

/-! ## Actions that send nothing -/

namespace Act

variable {σ τ α β : Type}

/-- An action notes no record as sent. -/
def Quiet (action : Act σ α) : Prop := ∀ s, Note.sentRecords (action s).notes = []

theorem quiet_bind {first : Act σ α} {second : α → Act σ β} (hfirst : Quiet first)
    (hsecond : ∀ a, Quiet (second a)) : Quiet (first >>= second) := by
  have composes : Composes fun (_ _ : σ) notes => Note.sentRecords notes = [] :=
    ⟨fun _ => rfl, fun h h' => by rw [Note.sentRecords_append, h, h', List.append_nil]⟩
  exact respects_bind composes hfirst hsecond

theorem quiet_focus {part : τ → σ} {replace : τ → σ → τ} {action : Act σ α} (h : Quiet action) :
    Quiet (focus part replace action) :=
  fun t => h (part t)

end Act

open Act

namespace KeySchedule

theorem quiet_extractEarly (psk : Bytes) : Quiet (extractEarly psk) := fun _ => rfl

theorem quiet_deriveEarly (psk helloHash : Option Bytes) : Quiet (deriveEarly psk helloHash) := by
  refine quiet_bind (quiet_extractEarly _) fun early => ?_
  cases helloHash with
  | none => exact fun _ => rfl
  | some helloHash =>
    refine quiet_bind (fun _ => rfl) fun schedule => ?_
    exact quiet_bind (fun _ => rfl) fun client => fun _ => rfl

theorem quiet_ensureEarly : Quiet ensureEarly := by
  intro schedule
  rw [ensureEarly_apply]
  dsimp only
  split <;> rfl

theorem quiet_deriveHandshake (shared transcriptHash : Bytes) :
    Quiet (deriveHandshake shared transcriptHash) := by
  refine quiet_bind quiet_ensureEarly fun early => ?_
  refine quiet_bind (fun _ => rfl) fun schedule => ?_
  refine quiet_bind (fun _ => rfl) fun salt => ?_
  refine quiet_bind (fun _ => rfl) fun _ => ?_
  refine quiet_bind (fun _ => rfl) fun client => ?_
  exact quiet_bind (fun _ => rfl) fun server => fun _ => rfl

theorem quiet_deriveApplication (transcriptHash : Bytes) :
    Quiet (deriveApplication transcriptHash) := by
  refine quiet_bind (fun _ => rfl) fun schedule => ?_
  cases schedule.handshake with
  | none => exact fun _ => rfl
  | some handshake =>
    refine quiet_bind (fun _ => rfl) fun salt => ?_
    refine quiet_bind (fun _ => rfl) fun _ => ?_
    refine quiet_bind (fun _ => rfl) fun client => ?_
    exact quiet_bind (fun _ => rfl) fun server => fun _ => rfl

end KeySchedule

theorem Endpoint.quiet_install (direction : Direction) (level : Code) (suite : Int)
    (secret : Secret) : Quiet (install direction level suite secret) := by
  intro endpoint
  rw [install_eq]
  generalize Epoch.install level suite secret (endpoint.transport.epoch direction) = installed
  obtain ⟨_ | _, epoch, notes⟩ := installed
  · rfl
  · dsimp only
    split <;> rfl

/-- Between two operations on the wire a script sends nothing. -/
theorem Session.Composed.quiet {α : Type} {action : Act Session α} (h : Session.Composed action) :
    Quiet action := by
  induction h with
  | bind _ _ ihFirst ihSecond => exact quiet_bind ihFirst ihSecond
  | deriveEarly psk helloHash => exact quiet_focus (KeySchedule.quiet_deriveEarly psk helloHash)
  | deriveHandshake shared hash => exact quiet_focus (KeySchedule.quiet_deriveHandshake shared hash)
  | deriveApplication hash => exact quiet_focus (KeySchedule.quiet_deriveApplication hash)
  | install direction level secret =>
    refine quiet_bind (fun _ => rfl) fun session => quiet_focus ?_
    exact Endpoint.quiet_install direction (.number level.code) _ _
  | give | fail | compute | look | adjust => exact fun _ => rfl

namespace Transport

theorem quiet_accept (header : Header) (body : Bytes) : Quiet (accept header body) := by
  refine quiet_bind (fun _ => rfl) fun transport => ?_
  split
  next => exact fun _ => rfl
  next =>
    split
    next cause _ => exact fun _ => rfl
    next data _ =>
      refine quiet_bind (fun _ => rfl) fun _ => ?_
      refine quiet_bind (fun _ => rfl) fun _ => ?_
      exact quiet_bind (fun _ => rfl) fun type => fun _ => rfl

theorem quiet_takeIn (intake : Intake) (chunk : Except StreamError Bytes) :
    Quiet (takeIn intake chunk) := by
  unfold takeIn
  split
  next => exact fun _ => rfl
  next => exact fun _ => rfl
  next =>
    refine quiet_bind (fun _ => rfl) fun arrival => ?_
    cases arrival with
    | awaiting intake => exact fun _ => rfl
    | whole header body =>
      refine quiet_bind (quiet_accept header body) fun delivery => ?_
      cases delivery <;> exact fun _ => rfl

end Transport

/-! ## Actions that note what they send -/

/-- What was put on a wire is what was noted. -/
structure Wire.Noted (before after : Wire) (notes : List Note) : Prop where
  fits : ∀ record ∈ Note.sentRecords notes, record.Fits
  sent : after.outgoing.queue = before.outgoing.queue ++ Record.stream (Note.sentRecords notes)

namespace Wire

variable {first second third : Wire} {notes more : List Note}

theorem noted_of_quiet (hnotes : Note.sentRecords notes = [])
    (hqueue : second.outgoing.queue = first.outgoing.queue) : first.Noted second notes where
  fits := by simp [hnotes]
  sent := by rw [hnotes, hqueue, Record.stream_nil, List.append_nil]

theorem Noted.trans (h : first.Noted second notes) (h' : second.Noted third more) :
    first.Noted third (notes ++ more) where
  fits := by
    rw [Note.sentRecords_append, List.forall_mem_append]
    exact ⟨h.fits, h'.fits⟩
  sent := by
    rw [h'.sent, h.sent, Note.sentRecords_append, Record.stream_append, List.append_assoc]

end Wire

/-- A write notes the record that it sends. -/
theorem Connection.noted_writeRecord (type : Code) (data : Bytes) (connection : Connection) :
    connection.wire.Noted (writeRecord type data connection).state.wire
      (writeRecord type data connection).notes := by
  have hsends := sends_writeRecord type data connection
  generalize writeRecord type data connection = outcome at hsends ⊢
  cases hsends with
  | refused cause => exact Wire.noted_of_quiet rfl rfl
  | failed hsend =>
    exact Wire.noted_of_quiet rfl (congrArg Channel.queue (Wire.outgoing_send_of_error hsend))
  | sent htype fits hsend =>
    have hqueue := congrArg Channel.queue (Wire.outgoing_send_of_ok hsend)
    refine ⟨List.forall_mem_singleton.2 fits, ?_⟩
    exact hqueue.trans (congrArg _ (List.append_nil _).symm)

/-! ## Runs of scripts -/

/-- Whatever a party does, it notes what it puts on the wire. -/
theorem Script.Composed.respects {σ ρ : Type} {script : Script σ ρ} (h : script.Composed) :
    script.Respects fun before after => before.wire.Noted after.wire where
  composes := ⟨fun _ => Wire.noted_of_quiet rfl rfl, Wire.Noted.trans⟩
  writes type data seat := Connection.noted_writeRecord type data seat.connection
  reads intake seat := Wire.noted_of_quiet (Transport.quiet_takeIn intake _ seat.transport)
    (congrArg Channel.queue (Connection.outgoing_receive intake seat.connection))
  next stage := by
    have hstage := h stage
    cases hask : script.ask stage with
    | send type data next =>
      rw [hask] at hstage
      exact fun seat => Wire.noted_of_quiet (hstage.quiet seat.toSession) rfl
    | receive next =>
      rw [hask] at hstage
      exact fun delivery seat => Wire.noted_of_quiet ((hstage delivery).quiet seat.toSession) rfl
    | finish result => exact trivial
  closes h := ⟨h.fits, h.sent⟩

/-! ## Exchanges -/

namespace Exchange

variable {config : Config} {hello : Bytes} {start after : Exchange} {written : Side → Bytes}

/-- The sides do any number of operations, in any order, and each of them puts some bytes on the
wire in their course. -/
inductive Writes (config : Config) (hello : Bytes) (start : Exchange) :
    Exchange → (Side → Bytes) → Prop where
  | nothing : Writes config hello start start fun _ => []
  | step {side : Side} {middle after : Exchange} {written : Side → Bytes} {bytes : Bytes}
      (before : Writes config hello start middle written)
      (h : step? config hello side middle = some after)
      (hbytes : (after.link.wire side).outgoing.queue =
        (middle.link.wire side).outgoing.queue ++ bytes) :
      Writes config hello start after
        (Function.update written side (written side ++ bytes))

theorem composed_scriptOf (config : Config) (hello : Bytes) :
    ∀ side, (scriptOf config hello side).Composed
  | .client => Client.composed_script _
  | .server => (Server.composed_script _).closing true

/-- What one side puts on the wire in an operation, and notes; the other side notes nothing. -/
theorem exists_noted_of_step {side : Side} {before : Exchange}
    (h : step? config hello side before = some after) :
    ∃ notes, (after.party side).notes = (before.party side).notes ++ notes ∧
      (before.link.wire side).Noted (after.link.wire side) notes ∧
      after.party side.peer = before.party side.peer := by
  obtain ⟨party, wire, hstep, rfl⟩ := step?_eq_some_iff.1 h
  have hsteps : Party.Steps (scriptOf config hello side)
      (before.party side, before.link.wire side) (party, wire) := hstep
  obtain ⟨notes, hnotes, hnoted⟩ :=
    Party.exists_notes_of_step (composed_scriptOf config hello side).respects hsteps
  rw [party_withParty, party_peer_withParty, link_withParty, Link.wire_setWire]
  exact ⟨notes, hnotes, hnoted, rfl⟩

/-- Every order puts some bytes on the wire. -/
theorem exists_writes (h : Reaches config hello start after) :
    ∃ written, Writes config hello start after written := by
  induction h with
  | refl => exact ⟨_, .nothing⟩
  | tail _ hstep ih =>
    obtain ⟨written, hwrites⟩ := ih
    obtain ⟨side, hstep⟩ := hstep
    obtain ⟨notes, -, hnoted, -⟩ := exists_noted_of_step hstep
    exact ⟨_, hwrites.step hstep hnoted.sent⟩

/-- The records that a side has noted as sent, one after another. -/
def noted (exchange : Exchange) (side : Side) : Bytes :=
  Record.stream (Note.sentRecords (exchange.party side).notes)

/-- What a side puts on the wire is what it notes. -/
theorem Writes.noted (h : Writes config hello start after written) (side : Side) :
    after.noted side = start.noted side ++ written side := by
  induction h with
  | nothing => exact (List.append_nil _).symm
  | @step side' middle after written bytes _ hstep hbytes ih =>
    obtain ⟨notes, hnotes, hnoted, hpeer⟩ := exists_noted_of_step hstep
    rcases side.eq_or_eq_peer side' with rfl | rfl
    · obtain rfl : bytes = Record.stream (Note.sentRecords notes) :=
        List.append_cancel_left (hbytes.symm.trans hnoted.sent)
      rw [Function.update_self, ← List.append_assoc, ← ih, Exchange.noted, hnotes,
        Note.sentRecords_append, Record.stream_append]
      rfl
    · rw [Function.update_of_ne side'.peer_ne, ← ih, Exchange.noted, hpeer]
      rfl

end Exchange

end RecordLayer
