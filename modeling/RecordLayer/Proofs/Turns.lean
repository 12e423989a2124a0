import Mathlib.Tactic.Common
import Mathlib.Logic.Relation
import RecordLayer.Exchange.Script
import RecordLayer.Proofs.Reading
import RecordLayer.Proofs.Sessions
import RecordLayer.Proofs.Writing

/-!
# Turns of a script

One operation of a party takes a few bytes off its wire or puts one record
on it.  A turn is coarser: all that it takes to leave a stage.  A turn that
sends is one operation, and a turn that receives is as many as the next
record needs to come in.

`Party.reaches_of_receive` says that operations do make up a turn, on any
wire where the party never has to wait, and `Party.run_eq_of_reaches` that
nothing else can happen.
-/

namespace RecordLayer

/-! ## What a read leaves of a wire -/

namespace Wire

/-- A read closes nothing and keeps a port steady. -/
theorem receive_keeps (wire : Wire) (count : Nat) :
    (wire.receive count).2.incoming.readerClosed = wire.incoming.readerClosed ∧
      (wire.receive count).2.incoming.writerClosed = wire.incoming.writerClosed ∧
      (wire.port.Steady → (wire.receive count).2.port.Steady) := by
  unfold receive
  split
  next => exact ⟨rfl, rfl, id⟩
  next =>
    split
    next => exact ⟨rfl, rfl, id⟩
    next readFault hstrike =>
      have hsteady : ∀ steady : wire.port.Steady, readFault = none := by
        intro steady
        rw [steady.readFault] at hstrike
        exact (Except.ok.inj hstrike).symm
      dsimp only
      split
      next => exact ⟨rfl, rfl, fun steady => ⟨hsteady steady, steady.limit, steady.pieces⟩⟩
      next =>
        refine ⟨rfl, rfl, fun steady => ⟨hsteady steady, steady.limit, fun h => ?_⟩⟩
        exact steady.pieces (List.mem_of_mem_tail h)

end Wire

/-! ## A seat as a connection -/

namespace Seat

/-- The connection of a seat. -/
def connection (seat : Seat) : Connection :=
  { transport := seat.transport, log := seat.log, wire := seat.wire }

/-- The seat with another connection. -/
def withConnection (seat : Seat) (connection : Connection) : Seat :=
  { transport := connection.transport, log := connection.log, schedule := seat.schedule,
    wire := connection.wire }

theorem onConnection_apply {α : Type} (action : Act Connection α) (seat : Seat) :
    onConnection action seat =
      { result := (action seat.connection).result
        state := seat.withConnection (action seat.connection).state
        notes := (action seat.connection).notes } := rfl

end Seat

namespace Party

variable {σ ρ : Type}

/-- The party of a seat at a stage. -/
def seated (stage : σ) (intake : Intake) (notes : List Note) (seat : Seat) : Party σ ρ :=
  { status := .running stage intake, session := seat.toSession, notes }

/-! ## Runs -/

/-- One operation of a party on a wire. -/
def Steps (script : Script σ ρ) (before after : Party σ ρ × Wire) : Prop :=
  step? script before.1 before.2 = some after

/-- Any number of operations of a party on a wire. -/
def Reaches (script : Script σ ρ) : Party σ ρ × Wire → Party σ ρ × Wire → Prop :=
  Relation.ReflTransGen (Steps script)

/-- Nothing comes after an end. -/
theorem not_steps_of_ended {script : Script σ ρ} {before after : Party σ ρ × Wire}
    {result : Result ρ} (hstatus : before.1.status = .ended result) :
    ¬Steps script before after := by
  intro h
  simp only [Steps, step?, hstatus] at h
  cases h

/-- An operation is the action of the stage where a party stands, which need not wait. -/
theorem exists_advance_of_steps {script : Script σ ρ} {before after : Party σ ρ × Wire}
    (h : Steps script before after) :
    ∃ stage intake, before.1.status = .running stage intake ∧
      waits script stage intake before.2 = false ∧
      after = settle script before.1 (advance script stage intake
        { toSession := before.1.session, wire := before.2 }) := by
  cases hstatus : before.1.status with
  | ended result => exact (not_steps_of_ended hstatus h).elim
  | running stage intake =>
    simp only [Steps, step?, hstatus] at h
    split at h
    next => cases h
    next hwaits =>
      exact ⟨stage, intake, rfl, Bool.eq_false_iff.2 hwaits, (Option.some.inj h).symm⟩

theorem run_of_none {script : Script σ ρ} {party : Party σ ρ} {wire : Wire}
    (h : step? script party wire = none) : run script party wire = (party, wire) := by
  rw [run]
  split
  next => rfl
  next hstep => rw [h] at hstep; cases hstep

/-- A party that has ended does nothing more. -/
theorem run_of_ended {script : Script σ ρ} {party : Party σ ρ} {wire : Wire} {result : Result ρ}
    (h : party.status = .ended result) : run script party wire = (party, wire) :=
  run_of_none (by simp only [step?, h])

theorem run_eq_of_step {script : Script σ ρ} {before after : Party σ ρ × Wire}
    (h : Steps script before after) : run script before.1 before.2 = run script after.1 after.2 := by
  rw [run]
  split
  next hstep => rw [Steps, hstep] at h; cases h
  next hstep =>
    rw [Steps, hstep] at h
    obtain rfl := Option.some.inj h
    rfl

/-- A run goes through every state that can be reached. -/
theorem run_eq_of_reaches {script : Script σ ρ} {before after : Party σ ρ × Wire}
    (h : Reaches script before after) :
    run script before.1 before.2 = run script after.1 after.2 := by
  induction h with
  | refl => rfl
  | tail _ hstep ih => exact ih.trans (run_eq_of_step hstep)

/-! ## Turns -/

/-- Go on to the stage that an action gives. -/
def goOn (script : Script σ ρ) {p : σ → Prop} (next : Act Session { s : σ // p s }) :
    Act Seat (Status σ ρ) := do
  let stage ← Seat.onSession next
  return enter script stage

/-- Receive the rest of the record under way, and go on from there. -/
def receiving (script : Script σ ρ) {p : σ → Prop} (next : Delivery → Act Session { s : σ // p s })
    (intake : Intake) (before : List Note) : Act Seat (Status σ ρ) := do
  let delivery ← Seat.onConnection (Connection.readOn intake before)
  goOn script (next delivery)

/-- Send a record, and go on from there. -/
def sending (script : Script σ ρ) {p : σ → Prop} (type : RecordType) (data : Bytes)
    (next : Act Session { s : σ // p s }) : Act Seat (Status σ ρ) := do
  discard (Seat.onConnection (Connection.writeRecord (.number type.code) data))
  goOn script next

/-- The session after its transport has sent one more record. -/
def counted (session : Session) : Session :=
  { transport := { session.transport with sent := session.transport.sent + 1 }
    log := session.log
    schedule := session.schedule }

theorem shows_counted {session : Session} {view : Session.View} (shown : session.Shows view) :
    (counted session).Shows view :=
  { shown with suite := shown.suite }

/-- A turn that sends is one operation. -/
theorem steps_of_send {script : Script σ ρ} {stage : σ} {type : RecordType} {data : Bytes}
    {next : Act Session { s : σ // script.rank s < script.rank stage }}
    (hask : script.ask stage = .send type data next) (notes : List Note) (seat : Seat) :
    Steps script (seated stage {} notes seat, seat.wire)
      (settle script (seated stage {} notes seat) (sending script type data next seat)) := by
  simp only [Steps, step?, seated, waits, advance, hask]
  rfl

/-- A party has to wait when it receives, nothing is there, and more may come. -/
theorem waits_iff {script : Script σ ρ} {stage : σ}
    {next : Delivery → Act Session { s : σ // script.rank s ≤ script.rank stage }}
    (hask : script.ask stage = .receive next) (intake : Intake) {wire : Wire}
    (hopen : wire.incoming.readerClosed = false) (steady : wire.port.Steady) :
    waits script stage intake wire = true ↔
      wire.incoming.queue = [] ∧ wire.incoming.writerClosed = false := by
  simp only [waits, hask, Wire.receive, hopen, steady.readFault, Fault.strike]
  cases hqueue : wire.incoming.queue <;> cases hclosed : wire.incoming.writerClosed <;> simp

/-- A read of nothing where more may come does not deliver. -/
theorem result_readOn_of_empty {intake : Intake} {before : List Note} {connection : Connection}
    (hopen : connection.wire.incoming.readerClosed = false)
    (steady : connection.wire.port.Steady) (hqueue : connection.wire.incoming.queue = [])
    (hclosed : connection.wire.incoming.writerClosed = false) (delivery : Delivery) :
    (Connection.readOn intake before connection).result ≠ .ok delivery := by
  have hreceive := Wire.receive_of_empty hopen steady intake.missing hqueue
  rw [hclosed, if_neg Bool.false_ne_true] at hreceive
  rw [Connection.readOn_eq]
  simp only [Connection.receive, hreceive, Connection.onTransport_apply, Transport.takeIn,
    Act.fail_apply]
  rintro ⟨⟩

/-- Operations make up a turn that receives, unless the party has to wait. -/
theorem reaches_of_receive {script : Script σ ρ} {stage : σ}
    {next : Delivery → Act Session { s : σ // script.rank s ≤ script.rank stage }}
    (hask : script.ask stage = .receive next) (intake : Intake) (notes before : List Note)
    {seat : Seat} (hopen : seat.wire.incoming.readerClosed = false)
    (steady : seat.wire.port.Steady)
    (hnever : seat.wire.incoming.writerClosed = true ∨
      ∃ delivery, (Connection.readOn intake before seat.connection).result = .ok delivery) :
    Reaches script (seated stage intake (notes ++ before) seat, seat.wire)
      (settle script (seated stage intake notes seat) (receiving script next intake before seat)) := by
  -- induction on the bytes that are there: a read that goes on takes some
  induction hn : seat.wire.incoming.queue.length using Nat.strongRecOn
    generalizing intake before seat with
  | ind n ih =>
    subst hn
    have hwaits : ¬waits script stage intake seat.wire = true := by
      rw [waits_iff hask intake hopen steady]
      rintro ⟨hqueue, hclosed⟩
      rcases hnever with h | ⟨delivery, h⟩
      · rw [h] at hclosed
        cases hclosed
      · exact @result_readOn_of_empty intake before seat.connection hopen steady hqueue hclosed
          delivery h
    have hshort := @Connection.receive_shortens intake seat.connection
    have hkeeps := Wire.receive_keeps seat.wire intake.missing
    have hwire : (Connection.receive intake seat.connection).state.wire =
        (seat.wire.receive intake.missing).2 := by
      rw [Connection.receive]
      rfl
    rw [← hwire] at hkeeps
    have hstep : Steps script (seated stage intake (notes ++ before) seat, seat.wire)
        (settle script (seated stage intake (notes ++ before) seat)
          (advance script stage intake seat)) := by
      simp only [Steps, step?, seated, if_neg hwaits]
    have hread := Connection.readOn_eq intake before seat.connection
    have hone := Seat.onConnection_apply (Connection.receive intake) seat
    have hmany := Seat.onConnection_apply (Connection.readOn intake before) seat
    cases hreceive : Connection.receive intake seat.connection with
    | mk result state notes' =>
    rw [hreceive] at hread hshort hkeeps hone
    rw [hread] at hmany
    cases result with
    | error e =>
      refine Relation.ReflTransGen.single ?_
      rw [receiving, Act.bind_apply_of_error hmany]
      simp only [advance, hask, Act.bind_apply_of_error hone] at hstep
      simpa only [settle, seated, List.append_assoc] using hstep
    | ok arrived =>
    cases arrived with
    | inr delivery =>
      refine Relation.ReflTransGen.single ?_
      rw [receiving, Act.bind_apply_of_ok hmany]
      simp only [advance, hask, Act.bind_apply_of_ok hone] at hstep
      simpa only [settle, seated, List.append_assoc, goOn] using hstep
    | inl intake' =>
      have hsame : receiving script next intake before seat =
          receiving script next intake' (before ++ notes') (seat.withConnection state) := by
        have hrest : Seat.onConnection (Connection.readOn intake before) seat =
            Seat.onConnection (Connection.readOn intake' (before ++ notes'))
              (seat.withConnection state) := hmany
        simp only [receiving, Act.bind_apply]
        rw [hrest]
      have hrest := @ih state.wire.incoming.queue.length (hshort rfl) intake' (before ++ notes')
        (seat.withConnection state) (hkeeps.1.trans hopen) (hkeeps.2.2 steady) ?_ rfl
      · rw [hsame]
        refine Relation.ReflTransGen.head ?_ hrest
        simp only [advance, hask, Act.bind_apply_of_ok hone] at hstep
        simpa only [settle, seated, List.append_assoc, Act.pure_apply, List.append_nil] using hstep
      · rw [hread] at hnever
        rcases hnever with h | h
        · exact Or.inl (hkeeps.2.1.trans h)
        · exact Or.inr h

end Party

end RecordLayer
