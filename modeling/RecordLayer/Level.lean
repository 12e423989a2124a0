import RecordLayer.Text.Quoted

/-!
# Codes and encryption levels

Where a caller has to name a level or a record type, it may offer any number,
a text or nothing at all (`Code`); a check then says whether that names
anything.

A connection has four encryption levels.  On the wire a level is its ordinal.
-/

namespace RecordLayer

/-! ## Codes -/

/-- What is offered as the code of a level or of a record type. -/
inductive Code where
  | number (n : Int)
  | text (s : String)
  | missing
deriving DecidableEq, Repr

namespace Code

/-- A code as it stands in a sentence. -/
def display : Code → String
  | .number n => s!"{n}"
  | .text s => s
  | .missing => "None"

/-- A code as it is quoted: text stands in quotes. -/
def quoted : Code → String
  | .number n => s!"{n}"
  | .text s => Text.quoted s
  | .missing => "None"

end Code

/-! ## Levels -/

/-- An encryption level. -/
inductive Level where
  | initial
  | earlyData
  | handshake
  | application
deriving DecidableEq, Repr

namespace Level

/-- The number of a level on the wire. -/
def code : Level → Int
  | .initial => 0
  | .earlyData => 1
  | .handshake => 2
  | .application => 3

/-- The level that a number stands for. -/
def ofInt? (n : Int) : Option Level :=
  if n = 0 then some .initial
  else if n = 1 then some .earlyData
  else if n = 2 then some .handshake
  else if n = 3 then some .application
  else none

/-- The level that a code stands for. -/
def ofCode? : Code → Option Level
  | .number n => ofInt? n
  | _ => none

/-- The name of a level in debug lines. -/
def name : Level → String
  | .initial => "initial"
  | .earlyData => "early_data"
  | .handshake => "handshake"
  | .application => "application"

/-- The name of the level that a number stands for, or else the number. -/
def nameOf (n : Int) : String :=
  match ofInt? n with
  | some level => level.name
  | none => s!"{n}"

@[simp] theorem ofInt?_code (level : Level) : ofInt? level.code = some level := by
  cases level <;> rfl

theorem ofInt?_eq_some_iff {n : Int} {level : Level} : ofInt? n = some level ↔ n = level.code := by
  constructor
  · intro h
    unfold ofInt? at h
    split at h
    · cases h; assumption
    split at h
    · cases h; assumption
    split at h
    · cases h; assumption
    split at h
    · cases h; assumption
    · cases h
  · rintro rfl
    simp

/-- Only the number of a level names it. -/
theorem ofCode?_eq_some_iff {code : Code} {level : Level} :
    ofCode? code = some level ↔ code = .number level.code := by
  cases code with
  | number n => rw [ofCode?, ofInt?_eq_some_iff, Code.number.injEq]
  | text s => simp [ofCode?]
  | missing => simp [ofCode?]

end Level

end RecordLayer
