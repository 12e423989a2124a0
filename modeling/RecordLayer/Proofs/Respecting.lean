import Mathlib.Tactic.Common
import RecordLayer.Proofs.Installing
import RecordLayer.Proofs.Turns

/-!
# What operations respect

Much of what holds of a whole run says how the state after an operation goes with
the state before it and with the notes made on the way: the wire has moved on by
whole records, the key log has only grown, what was sent is what was noted.
`Act.Respects` is for such a relation, whether the action succeeds or not.

If the relation goes on from one action to the next (`Act.Composes`), it is
enough to know it of single writes and reads and of the actions of a script
(`Script.Respects`).  Then every operation of a party respects it
(`Party.exists_notes_of_step`), and so does any part of a run
(`Party.exists_notes_of_reaches`).
-/

namespace RecordLayer

/-! ## Actions -/

namespace Act

variable {σ α β : Type} {R : σ → σ → List Note → Prop}

/-- A relation between the states before and after an action, with the notes
that are made, goes on from action to action. -/
structure Composes (R : σ → σ → List Note → Prop) : Prop where
  idle : ∀ s, R s s []
  trans : ∀ {first second third notes more}, R first second notes → R second third more →
    R first third (notes ++ more)

/-- An action leads along a relation, also when it fails. -/
def Respects (R : σ → σ → List Note → Prop) (action : Act σ α) : Prop :=
  ∀ s, R s (action s).state (action s).notes

theorem respects_pure (composes : Composes R) (a : α) : Respects R (pure a) := composes.idle

theorem respects_bind (composes : Composes R) {first : Act σ α} {second : α → Act σ β}
    (hfirst : Respects R first) (hsecond : ∀ a, Respects R (second a)) :
    Respects R (first >>= second) := by
  intro s
  have h := hfirst s
  rw [bind_apply]
  generalize first s = outcome at h ⊢
  obtain ⟨result, state, notes⟩ := outcome
  cases result with
  | error e => exact h
  | ok a => exact composes.trans h (hsecond a state)

theorem respects_discard {action : Act σ α} (h : Respects R action) :
    Respects R (discard action) := by
  intro s
  rw [discard_apply]
  exact h s

end Act

open Act

/-! ## Operations of a party -/

variable {σ ρ : Type}

/-- Single writes and reads, the actions of a script and the closing of its end
respect a relation. -/
structure Script.Respects (script : Script σ ρ) (R : Seat → Seat → List Note → Prop) : Prop where
  composes : Composes R
  writes : ∀ type data, Act.Respects R (Seat.onConnection (Connection.writeRecord type data))
  reads : ∀ intake, Act.Respects R (Seat.onConnection (Connection.receive intake))
  next : ∀ stage, match script.ask stage with
    | .send _ _ next => Act.Respects R (Seat.onSession next)
    | .receive next => ∀ delivery, Act.Respects R (Seat.onSession (next delivery))
    | .finish _ => True
  closes : ∀ {before after : Seat} {notes : List Note}, R before after notes →
    R before { after with wire := after.wire.close } notes

namespace Party

variable {script : Script σ ρ} {R : Seat → Seat → List Note → Prop}
  {before after : Party σ ρ × Wire}

/-- The session of a party on its wire. -/
def seat (point : Party σ ρ × Wire) : Seat := { toSession := point.1.session, wire := point.2 }

theorem respects_advance (respects : script.Respects R) (stage : σ) (intake : Intake) :
    Act.Respects R (advance script stage intake) := by
  have composes := respects.composes
  have hstage := respects.next stage
  unfold advance
  cases hask : script.ask stage with
  | send type data next =>
    rw [hask] at hstage
    refine respects_bind composes (respects_discard (respects.writes _ _)) fun _ => ?_
    exact respects_bind composes hstage fun _ => respects_pure composes _
  | receive next =>
    rw [hask] at hstage
    refine respects_bind composes (respects.reads intake) fun arrived => ?_
    cases arrived with
    | inl intake' => exact respects_pure composes _
    | inr delivery =>
      exact respects_bind composes (hstage delivery) fun _ => respects_pure composes _
  | finish result => exact respects_pure composes _

/-- An operation makes some notes and respects what its parts do. -/
theorem exists_notes_of_step (respects : script.Respects R) (h : Steps script before after) :
    ∃ notes, after.1.notes = before.1.notes ++ notes ∧ R (seat before) (seat after) notes := by
  obtain ⟨stage, intake, -, -, rfl⟩ := exists_advance_of_steps h
  have hadvance : R (seat before) _ _ := respects_advance respects stage intake (seat before)
  change ∃ notes, (settle script before.1 (advance script stage intake (seat before))).1.notes = _ ∧
    R _ (seat (settle script before.1 (advance script stage intake (seat before)))) notes
  generalize advance script stage intake (seat before) = outcome at hadvance ⊢
  obtain ⟨result, state, notes⟩ := outcome
  cases result with
  | ok status => exact ⟨notes, rfl, hadvance⟩
  | error e =>
    refine ⟨notes, rfl, ?_⟩
    simp only [settle, seat]
    split
    · exact respects.closes hadvance
    · exact hadvance

/-- Any part of a run makes some notes and respects what single operations do. -/
theorem exists_notes_of_reaches (respects : script.Respects R) (h : Reaches script before after) :
    ∃ notes, after.1.notes = before.1.notes ++ notes ∧ R (seat before) (seat after) notes := by
  induction h with
  | refl => exact ⟨[], (List.append_nil _).symm, respects.composes.idle _⟩
  | tail _ hstep ih =>
    obtain ⟨notes, hnotes, hrest⟩ := ih
    obtain ⟨more, hmore, hlast⟩ := exists_notes_of_step respects hstep
    refine ⟨notes ++ more, ?_, respects.composes.trans hrest hlast⟩
    rw [hmore, hnotes, List.append_assoc]

end Party

end RecordLayer
