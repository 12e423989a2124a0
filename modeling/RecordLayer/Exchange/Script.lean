import RecordLayer.Connection
import RecordLayer.KeySchedule

/-!
# Scripts

A script is what one side of an exchange does, as a state machine.  At each
stage it asks either to send one record, or for the next record that arrives,
and says how it goes on from there; or it is finished.

`Party` is one side with its script under way.  `Party.step?` does its next operation on a
wire, one write or one read, and `Party.run` repeats that until the script
has ended or waits for more.  Every stage has a rank, which bounds the records
that are still to be sent, so that a run comes to an end.
-/

namespace RecordLayer

/-! ## Sessions -/

/-- What a script works on between its operations on the wire. -/
structure Session extends Endpoint where
  schedule : KeySchedule
deriving DecidableEq, Repr

namespace Session

/-- Work on the endpoint alone. -/
def onEndpoint {α : Type} : Act Endpoint α → Act Session α :=
  Act.focus Session.toEndpoint fun session endpoint => { session with toEndpoint := endpoint }

/-- Work on the key schedule alone. -/
def onSchedule {α : Type} : Act KeySchedule α → Act Session α :=
  Act.focus Session.schedule fun session schedule => { session with schedule }

/-- Install a secret in one direction under the suite of the key schedule. -/
def install (direction : Direction) (level : Level) (secret : Bytes) : Act Session Unit := do
  let suite := (← Act.get).schedule.suite
  onEndpoint (Endpoint.install direction (.number level.code) suite.code (.bytes secret))

/-- The hash of the handshake messages so far. -/
def transcriptHash (messages : List Bytes) : Act Session Bytes := do
  return (← Act.get).schedule.transcriptHash messages

/-- The verify data of the sender of a Finished message. -/
def verifyData (trafficSecret : Bytes) (messages : List Bytes) : Act Session Bytes := do
  let schedule := (← Act.get).schedule
  Act.ofResult (schedule.verifyData trafficSecret (schedule.transcriptHash messages))

end Session

/-- A session on its wire. -/
structure Seat extends Session where
  wire : Wire
deriving DecidableEq, Repr

namespace Seat

/-- Work on the session alone. -/
def onSession {α : Type} : Act Session α → Act Seat α :=
  Act.focus Seat.toSession fun seat session => { seat with toSession := session }

/-- Work on the connection alone. -/
def onConnection {α : Type} : Act Connection α → Act Seat α :=
  Act.focus (fun seat => { toEndpoint := seat.toEndpoint, wire := seat.wire })
    fun seat connection =>
      { seat with toEndpoint := connection.toEndpoint, wire := connection.wire }

end Seat

/-! ## Scripts -/

/-- What a script asks for at a stage.  After a record was sent it goes on to
a stage of type `α`, after one was delivered to a stage of type `β`. -/
inductive Request (α β ρ : Type) where
  | send (type : RecordType) (data : Bytes) (next : Act Session α)
  | receive (next : Delivery → Act Session β)
  | finish (result : ρ)

/-- A script with stages of type `σ` and results of type `ρ`. -/
structure Script (σ ρ : Type) where
  /-- Sending lowers the rank, and receiving does not raise it. -/
  rank : σ → Nat
  ask : (stage : σ) → Request { s : σ // rank s < rank stage } { s : σ // rank s ≤ rank stage } ρ
  /-- Whether the side closes its end of the link when it fails. -/
  closesOnFailure : Bool

/-- How far a script has come. -/
inductive Status (σ ρ : Type) where
  /-- At a stage, with a part of the next record. -/
  | running (stage : σ) (intake : Intake)
  | ended (result : Result ρ)

/-- A script under way. -/
structure Party (σ ρ : Type) where
  status : Status σ ρ
  session : Session
  notes : List Note := []

namespace Party

variable {σ ρ : Type}

/-- The result of a script.  One that still waits has not got its data. -/
def result (party : Party σ ρ) : Result ρ :=
  match party.status with
  | .ended result => result
  | .running .. => .error (.stream .wouldBlock)

/-- Whether a script has failed. -/
def failed (party : Party σ ρ) : Bool :=
  match party.status with
  | .ended (.error _) => true
  | _ => false

/-- The rank of a status; nothing ranks below a script that has ended. -/
def rankOf (script : Script σ ρ) : Status σ ρ → Nat
  | .running stage _ => script.rank stage + 1
  | .ended _ => 0

/-- The status on arrival at a stage. -/
def enter (script : Script σ ρ) (stage : σ) : Status σ ρ :=
  match script.ask stage with
  | .finish result => .ended (.ok result)
  | _ => .running stage {}

/-- The next operation of a script at a stage. -/
def advance (script : Script σ ρ) (stage : σ) (intake : Intake) : Act Seat (Status σ ρ) :=
  match script.ask stage with
  | .send type data next => do
    discard (Seat.onConnection (Connection.writeRecord (.number type.code) data))
    let stage ← Seat.onSession next
    return enter script stage
  | .receive next => do
    match ← Seat.onConnection (Connection.receive intake) with
    | .inl intake => return .running stage intake
    | .inr delivery =>
      let stage ← Seat.onSession (next delivery)
      return enter script stage
  | .finish result => return .ended (.ok result)

/-- Whether a script at a stage has to wait for the peer. -/
def waits (script : Script σ ρ) (stage : σ) (intake : Intake) (wire : Wire) : Bool :=
  match script.ask stage with
  | .receive _ =>
    match (wire.receive intake.missing).1 with
    | .error .wouldBlock => true
    | _ => false
  | _ => false

/-- The party and its wire after an operation.  A failure ends the script. -/
def settle (script : Script σ ρ) (party : Party σ ρ) (outcome : Outcome Seat (Status σ ρ)) :
    Party σ ρ × Wire :=
  let notes := party.notes ++ outcome.notes
  let session := outcome.state.toSession
  let wire := outcome.state.wire
  match outcome.result with
  | .ok status => ({ status, session, notes }, wire)
  | .error e =>
    ({ status := .ended (.error e), session, notes },
      if script.closesOnFailure then wire.close else wire)

/-- Do the next operation on a wire, if there is one and it need not wait. -/
def step? (script : Script σ ρ) (party : Party σ ρ) (wire : Wire) :
    Option (Party σ ρ × Wire) :=
  match party.status with
  | .ended _ => none
  | .running stage intake =>
    if waits script stage intake wire then none
    else
      some (settle script party
        (advance script stage intake { toSession := party.session, wire }))

/-! ## Runs end -/

/-- An operation lowers the rank, or keeps it and takes bytes off the wire
without writing any. -/
def Descends (script : Script σ ρ) (before after : Status σ ρ × Wire) : Prop :=
  rankOf script after.1 < rankOf script before.1 ∨
    rankOf script after.1 ≤ rankOf script before.1 ∧
      after.2.outgoing = before.2.outgoing ∧
      after.2.incoming.queue.length < before.2.incoming.queue.length

theorem rankOf_enter_le (script : Script σ ρ) (stage : σ) :
    rankOf script (enter script stage) ≤ script.rank stage + 1 := by
  unfold enter
  split <;> simp [rankOf]

theorem descends_of_advance {script : Script σ ρ} {stage : σ} {intake : Intake} {seat seat' : Seat}
    {status : Status σ ρ} {notes : List Note}
    (h : advance script stage intake seat = { result := .ok status, state := seat', notes }) :
    Descends script (.running stage intake, seat.wire) (status, seat'.wire) := by
  cases hask : script.ask stage with
  | send type data next =>
    simp only [advance, hask] at h
    left
    obtain ⟨_, _, _, _, -, h, -⟩ := Act.bind_eq_ok_iff.1 h
    obtain ⟨stage', _, _, _, -, h, -⟩ := Act.bind_eq_ok_iff.1 h
    obtain ⟨rfl, -, -⟩ : enter script stage'.1 = status ∧ _ ∧ _ := by
      simpa [pure, Act.done] using h
    exact Nat.lt_of_le_of_lt (rankOf_enter_le script stage'.1) (Nat.succ_lt_succ stage'.2)
  | receive next =>
    simp only [advance, hask] at h
    right
    obtain ⟨arrived, seat₁, _, _, hreceive, h, -⟩ := Act.bind_eq_ok_iff.1 h
    simp only [Seat.onConnection, Act.focus_apply, Outcome.mk.injEq] at hreceive
    obtain ⟨hresult, rfl, -⟩ := hreceive
    have hshort := Connection.receive_shortens hresult
    have houtgoing := Connection.outgoing_receive intake
      { toEndpoint := seat.toEndpoint, wire := seat.wire }
    split at h
    next intake' =>
      obtain ⟨rfl, rfl, -⟩ : .running stage intake' = status ∧ _ ∧ _ := by
        simpa [pure, Act.done] using h
      exact ⟨Nat.le_refl _, houtgoing, hshort⟩
    next delivery =>
      obtain ⟨stage', seat₂, _, _, hnext, h, -⟩ := Act.bind_eq_ok_iff.1 h
      simp only [Seat.onSession, Act.focus_apply, Outcome.mk.injEq] at hnext
      obtain ⟨-, rfl, -⟩ := hnext
      obtain ⟨rfl, rfl, -⟩ : enter script stage'.1 = status ∧ _ ∧ _ := by
        simpa [pure, Act.done] using h
      exact ⟨Nat.le_trans (rankOf_enter_le script stage'.1) (Nat.succ_le_succ stage'.2),
        houtgoing, hshort⟩
  | finish result =>
    simp only [advance, hask] at h
    left
    obtain ⟨rfl, -, -⟩ : .ended (.ok result) = status ∧ _ ∧ _ := by
      simpa [pure, Act.done] using h
    simp [rankOf]

theorem descends_of_step? {script : Script σ ρ} {party party' : Party σ ρ}
    {wire wire' : Wire} (h : step? script party wire = some (party', wire')) :
    Descends script (party.status, wire) (party'.status, wire') := by
  unfold step? at h
  split at h
  · simp at h
  next stage intake hstatus =>
    split at h
    · simp at h
    · simp only [Option.some.injEq] at h
      rw [hstatus]
      generalize hout : advance script stage intake { toSession := party.session, wire } = out at h
      obtain ⟨result, state, notes⟩ := out
      cases result with
      | error e =>
        simp only [settle, Prod.mk.injEq] at h
        obtain ⟨rfl, rfl⟩ := h
        left
        simp [rankOf]
      | ok status =>
        simp only [settle, Prod.mk.injEq] at h
        obtain ⟨rfl, rfl⟩ := h
        exact descends_of_advance hout

/-- Do operations until the script has ended or has to wait. -/
def run (script : Script σ ρ) (party : Party σ ρ) (wire : Wire) : Party σ ρ × Wire :=
  match _h : step? script party wire with
  | none => (party, wire)
  | some (party', wire') => run script party' wire'
termination_by (rankOf script party.status, wire.incoming.queue.length)
decreasing_by
  rcases descends_of_step? _h with hrank | ⟨hrank, -, hqueue⟩
  · exact Prod.Lex.left _ _ hrank
  · rcases Nat.lt_or_eq_of_le hrank with hrank | hrank
    · exact Prod.Lex.left _ _ hrank
    · rw [hrank]
      exact Prod.Lex.right _ hqueue

end Party

end RecordLayer
