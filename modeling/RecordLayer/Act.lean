import RecordLayer.Note

/-!
# Actions

An action works on a state.  It gives a result or fails; in either case it
leaves a state behind, which may have changed before the failure, and notes
of what it has done.

`Act.focus` runs an action on a part of a larger state.
-/

namespace RecordLayer

/-- What an action leaves behind. -/
structure Outcome (σ α : Type) where
  result : Result α
  state : σ
  notes : List Note := []

/-- An action on a state of type `σ`. -/
def Act (σ α : Type) : Type := σ → Outcome σ α

namespace Act

variable {σ τ α β : Type}

/-- The action that only gives a result. -/
def done (a : α) : Act σ α := fun s => { result := .ok a, state := s }

/-- One action after another.  The second runs only if the first succeeds. -/
def andThen (first : Act σ α) (second : α → Act σ β) : Act σ β := fun s =>
  match first s with
  | { result := .ok a, state, notes } =>
    let later := second a state
    { later with notes := notes ++ later.notes }
  | { result := .error e, state, notes } => { result := .error e, state, notes }

instance : Monad (Act σ) where
  pure := done
  bind := andThen

/-- Fail. -/
def fail (e : Error) : Act σ α := fun s => { result := .error e, state := s }

/-- Give the result of a computation. -/
def ofResult (result : Result α) : Act σ α := fun s => { result, state := s }

/-- The state. -/
def get : Act σ σ := fun s => { result := .ok s, state := s }

/-- Replace the state. -/
def set (s : σ) : Act σ Unit := fun _ => { result := .ok (), state := s }

/-- Change the state. -/
def modify (f : σ → σ) : Act σ Unit := fun s => { result := .ok (), state := f s }

/-- Leave notes. -/
def note (notes : List Note) : Act σ Unit := fun s => { result := .ok (), state := s, notes }

/-- Run an action on a part of the state. -/
def focus (part : τ → σ) (replace : τ → σ → τ) (action : Act σ α) : Act τ α := fun t =>
  let outcome := action (part t)
  { result := outcome.result, state := replace t outcome.state, notes := outcome.notes }

/-! ## What each action leaves behind -/

@[simp] theorem pure_apply (a : α) (s : σ) :
    (pure a : Act σ α) s = { result := .ok a, state := s } := rfl

@[simp] theorem fail_apply (e : Error) (s : σ) :
    (fail e : Act σ α) s = { result := .error e, state := s } := rfl

@[simp] theorem ofResult_apply (result : Result α) (s : σ) :
    (ofResult result : Act σ α) s = { result, state := s } := rfl

@[simp] theorem get_apply (s : σ) : (get : Act σ σ) s = { result := .ok s, state := s } := rfl

@[simp] theorem set_apply (s t : σ) :
    (set t : Act σ Unit) s = { result := .ok (), state := t } := rfl

@[simp] theorem modify_apply (f : σ → σ) (s : σ) :
    (modify f : Act σ Unit) s = { result := .ok (), state := f s } := rfl

@[simp] theorem note_apply (notes : List Note) (s : σ) :
    (note notes : Act σ Unit) s = { result := .ok (), state := s, notes } := rfl

theorem bind_apply (first : Act σ α) (second : α → Act σ β) (s : σ) :
    (first >>= second) s =
      match first s with
      | { result := .ok a, state, notes } =>
        { second a state with notes := notes ++ (second a state).notes }
      | { result := .error e, state, notes } => { result := .error e, state, notes } := rfl

@[simp] theorem focus_apply (part : τ → σ) (replace : τ → σ → τ) (action : Act σ α) (t : τ) :
    focus part replace action t =
      { result := (action (part t)).result
        state := replace t (action (part t)).state
        notes := (action (part t)).notes } := rfl

/-! ## One step of a sequence -/

theorem get_bind (second : σ → Act σ β) (s : σ) : (get >>= second) s = second s s := rfl

theorem set_bind (second : Unit → Act σ β) (s t : σ) : (set t >>= second) s = second () t := rfl

theorem modify_bind (f : σ → σ) (second : Unit → Act σ β) (s : σ) :
    (modify f >>= second) s = second () (f s) := rfl

theorem note_bind (notes : List Note) (second : Unit → Act σ β) (s : σ) :
    (note notes >>= second) s =
      { second () s with notes := notes ++ (second () s).notes } := rfl

theorem ofResult_bind {result : Result α} {a : α} (h : result = .ok a) (second : α → Act σ β)
    (s : σ) : (ofResult result >>= second) s = second a s := by
  rw [h]
  rfl

theorem ofResult_bind_error {result : Result α} {e : Error} (h : result = .error e)
    (second : α → Act σ β) (s : σ) :
    (ofResult result >>= second) s = { result := .error e, state := s } := by
  rw [h]
  rfl

/-- A sequence succeeds when both of its actions do. -/
theorem bind_eq_ok_iff {first : Act σ α} {second : α → Act σ β} {s s' : σ} {b : β}
    {notes : List Note} :
    (first >>= second) s = { result := .ok b, state := s', notes } ↔
      ∃ a t n₁ n₂, first s = { result := .ok a, state := t, notes := n₁ } ∧
        second a t = { result := .ok b, state := s', notes := n₂ } ∧ notes = n₁ ++ n₂ := by
  rw [bind_apply]
  constructor
  · intro h
    split at h
    next a t n₁ hfirst =>
      refine ⟨a, t, n₁, (second a t).notes, hfirst, ?_, ?_⟩
      · simp only [Outcome.mk.injEq] at h
        rw [← h.1, ← h.2.1]
      · simp only [Outcome.mk.injEq] at h
        exact h.2.2.symm
    next => simp at h
  · rintro ⟨a, t, n₁, n₂, hfirst, hsecond, rfl⟩
    rw [hfirst]
    simp [hsecond]

/-- An action after one that succeeds. -/
theorem bind_apply_of_ok {first : Act σ α} {second : α → Act σ β} {s s' : σ} {a : α}
    {notes : List Note} (h : first s = { result := .ok a, state := s', notes }) :
    (first >>= second) s =
      { second a s' with notes := notes ++ (second a s').notes } := by
  rw [bind_apply, h]

/-- Nothing runs after a failure. -/
theorem bind_apply_of_error {first : Act σ α} {second : α → Act σ β} {s s' : σ} {e : Error}
    {notes : List Note} (h : first s = { result := .error e, state := s', notes }) :
    (first >>= second) s = { result := .error e, state := s', notes } := by
  rw [bind_apply, h]

end Act

end RecordLayer
