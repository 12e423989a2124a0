import RecordLayer.Act

/-!
# Epochs

The keys of one direction.  Incoming records have to carry the level, the
suite and the secret of the read epoch; outgoing records are stamped with
those of the write epoch.

`Epoch.install` and `Epoch.setLevel` only make epochs with a known level and a
suite of two bytes (`Epoch.WellFormed`).  The fields can hold any numbers
because they may also be assigned without a check.

An installation checks all that it is given before it assigns anything, but it
reads the secret last.  A secret that was released passes the checks and cannot
be read, so then the level and the suite are new and the secret is still the
old one.
-/

namespace RecordLayer

/-! ## Secrets -/

/-- What is offered as a secret. -/
inductive Secret where
  | bytes (content : Bytes)
  /-- A view of bytes that were given back. -/
  | released
  /-- Something that is not bytes at all. -/
  | other
deriving DecidableEq, Repr

/-- The bytes of a secret. -/
def Secret.read : Secret → Result Bytes
  | .bytes content => .ok content
  | .released => .error .secretReleased
  | .other => .error .secretNotBytes

/-! ## Epochs -/

/-- The keys of one direction. -/
structure Epoch where
  level : Int := 0
  suite : Int := 0
  secret : Bytes := []
deriving DecidableEq, Repr

namespace Epoch

/-- The level is one of the four, and the suite fits its field. -/
def WellFormed (epoch : Epoch) : Prop :=
  (∃ level : Level, epoch.level = level.code) ∧ 0 ≤ epoch.suite ∧ epoch.suite ≤ maxSuite

/-- The level that a code names. -/
def checkLevel (level : Code) : Result Level :=
  match Level.ofCode? level with
  | some level => .ok level
  | none => .error (.badLevel level)

/-- A code that is accepted is that of the level. -/
theorem code_of_checkLevel {code : Code} {level : Level} (h : checkLevel code = .ok level) :
    code = .number level.code := by
  unfold checkLevel at h
  split at h
  next known hknown =>
    obtain rfl := Except.ok.inj h
    exact Level.ofCode?_eq_some_iff.1 hknown
  next => cases h

/-- Switch to a new epoch.  The level is checked before the suite, and both
before the secret, which may be something other than bytes.  Only then are the
level and the suite assigned, and the secret after them. -/
def install (level : Code) (suite : Int) (secret : Secret) : Act Epoch Unit := do
  let level ← Act.ofResult (checkLevel level)
  if ¬(0 ≤ suite ∧ suite ≤ maxSuite) then
    Act.fail (.suiteOutOfRange suite)
  if secret = .other then
    Act.fail .secretNotBytes
  Act.modify fun epoch => { epoch with level := level.code, suite }
  let bytes ← Act.ofResult secret.read
  Act.modify fun epoch => { epoch with secret := bytes }

/-- The epoch at another level. -/
def setLevel (epoch : Epoch) (level : Code) : Result Epoch := do
  let level ← checkLevel level
  return { epoch with level := level.code }

/-- The record that carries `data` under this epoch. -/
def stamp (epoch : Epoch) (type : RecordType) (data : Bytes) : Record :=
  { tag := type.tag, level := epoch.level, suite := epoch.suite, secret := epoch.secret, data }

/-- The plaintext of a received record, which has to carry this epoch.  The
level is checked first, then the suite, then the secret. -/
def accept (epoch : Epoch) (header : Header) (body : Bytes) : Result Bytes := do
  if header.level ≠ epoch.level then
    throw (.levelMismatch header.level epoch.level)
  if header.suite ≠ epoch.suite then
    throw (.suiteMismatch header.suite epoch.suite)
  if body.length < epoch.secret.length then
    throw .shorterThanSecret
  let (secret, plaintext) := body.splitAt epoch.secret.length
  if secret ≠ epoch.secret then
    throw (.secretMismatch secret epoch.secret)
  return plaintext

theorem wellFormed_default : WellFormed {} :=
  ⟨⟨.initial, rfl⟩, by decide, by decide⟩

end Epoch

end RecordLayer
