import Mathlib.Tactic.Common
import RecordLayer.Transport

/-!
# What an installation comes to

`Epoch.installs_install` tells all that an installation can do to an epoch: it
is refused and changes nothing, it stops at a secret that cannot be read and
leaves the old secret at the new level and suite, or it makes a new epoch.

`Endpoint.install_eq` takes an installation on a transport apart: the epoch is
assigned, and its secret is reported to the key log if it has a label there.
-/

namespace RecordLayer

/-- An action whose result is thrown away. -/
theorem Act.discard_apply {σ α : Type} (action : Act σ α) (s : σ) :
    (discard action : Act σ PUnit) s =
      { result := (action s).result.map fun _ => ()
        state := (action s).state
        notes := (action s).notes } := by
  show (action >>= fun _ => pure ()) s = _
  rw [Act.bind_apply]
  rcases action s with ⟨_ | _, state, notes⟩
  · rfl
  · simp [Except.map]

namespace Epoch

/-- All that an installation can do to an epoch. -/
inductive Installs (level : Code) (suite : Int) (secret : Secret) (before : Epoch) :
    Outcome Epoch Unit → Prop
  | refused (cause : Error) :
    Installs level suite secret before { result := .error cause, state := before }
  /-- The secret cannot be read when the level and the suite have been assigned. -/
  | halfway (known : Level) (hlevel : level = .number known.code)
    (hsuite : 0 ≤ suite ∧ suite ≤ 65535) (hsecret : secret = .released) :
    Installs level suite secret before
      { result := .error .secretReleased
        state := { before with level := known.code, suite } }
  | installed (known : Level) (bytes : Bytes) (hlevel : level = .number known.code)
    (hsuite : 0 ≤ suite ∧ suite ≤ 65535) (hsecret : secret = .bytes bytes) :
    Installs level suite secret before
      { result := .ok (), state := { level := known.code, suite, secret := bytes } }

variable {level : Code} {suite : Int}

/-- An installation at a known level with a suite that fits goes by its secret. -/
theorem install_of_known {known : Level} (hlevel : checkLevel level = .ok known)
    (hsuite : 0 ≤ suite ∧ suite ≤ 65535) (secret : Secret) (before : Epoch) :
    install level suite secret before =
      match secret with
      | .bytes bytes =>
        { result := .ok (), state := { level := known.code, suite, secret := bytes } }
      | .released =>
        { result := .error .secretReleased
          state := { before with level := known.code, suite } }
      | .other => { result := .error .secretNotBytes, state := before } := by
  have hfits : ¬¬(0 ≤ suite ∧ suite ≤ maxSuite) := not_not_intro hsuite
  unfold install
  rw [hlevel]
  simp only [if_neg hfits]
  cases secret <;> rfl

/-- A level that is not known is refused first. -/
theorem install_of_badLevel {cause : Error} (hlevel : checkLevel level = .error cause)
    (suite : Int) (secret : Secret) (before : Epoch) :
    install level suite secret before = { result := .error cause, state := before } := by
  unfold install
  rw [hlevel]
  rfl

/-- A suite that does not fit is refused next. -/
theorem install_of_badSuite {known : Level} (hlevel : checkLevel level = .ok known)
    (hsuite : ¬(0 ≤ suite ∧ suite ≤ 65535)) (secret : Secret) (before : Epoch) :
    install level suite secret before =
      { result := .error (.suiteOutOfRange suite), state := before } := by
  have hunfit : ¬(0 ≤ suite ∧ suite ≤ maxSuite) := hsuite
  unfold install
  rw [hlevel]
  simp only [if_pos hunfit]
  rfl

theorem installs_install (level : Code) (suite : Int) (secret : Secret) (before : Epoch) :
    Installs level suite secret before (install level suite secret before) := by
  cases hlevel : checkLevel level with
  | error cause =>
    rw [install_of_badLevel hlevel]
    exact .refused cause
  | ok known =>
    by_cases hsuite : 0 ≤ suite ∧ suite ≤ 65535
    case neg =>
      rw [install_of_badSuite hlevel hsuite]
      exact .refused _
    rw [install_of_known hlevel hsuite]
    have hcode := code_of_checkLevel hlevel
    cases secret with
    | bytes bytes => exact .installed known bytes hcode hsuite rfl
    | released => exact .halfway known hcode hsuite rfl
    | other => exact .refused _

/-- An installation leaves no notes on an epoch. -/
theorem notes_install (level : Code) (suite : Int) (secret : Secret) (before : Epoch) :
    (install level suite secret before).notes = [] := by
  generalize hinstalls : install level suite secret before = outcome
  have := hinstalls ▸ installs_install level suite secret before
  cases this <;> rfl

end Epoch

/-- A key log with the lines for one more secret. -/
def KeyLog.grown (log : KeyLog) (random : Bytes) (label : String) (secret : Bytes) : KeyLog :=
  { log with
    created := true
    entries := log.entries ++ KeyLog.entriesFor random [(some label, secret)] }

namespace Endpoint

/-- The label under which a secret is reported, if it is. -/
def label? (endpoint : Endpoint) (direction : Direction) (level : Code) : Option String :=
  if endpoint.transport.logs && !endpoint.transport.random.isEmpty then
    KeyLog.label? level (direction.sender endpoint.transport.side)
  else none

/-- A report, step by step. -/
theorem report_eq (direction : Direction) (level : Code) (secret : Bytes) (endpoint : Endpoint) :
    report direction level secret endpoint =
      match endpoint.label? direction level, endpoint.log.fault with
      | none, _ => { result := .ok (), state := endpoint }
      | some _, some fault => { result := .error (.file fault), state := endpoint }
      | some label, none =>
        { result := .ok ()
          state := { endpoint with
            log := endpoint.log.grown endpoint.transport.random label secret } } := by
  simp only [report, Act.bind_apply, Act.get_apply, label?]
  by_cases hlogs : (endpoint.transport.logs && !endpoint.transport.random.isEmpty) = true
  case neg => simp only [if_neg hlogs]; rfl
  simp only [if_pos hlogs]
  cases KeyLog.label? level (direction.sender endpoint.transport.side) with
  | none => rfl
  | some label =>
    simp only [Act.discard_apply, onLog, Act.focus_apply, KeyLog.append]
    cases hfault : endpoint.log.fault with
    | none => simp [Except.map, KeyLog.grown, hfault]
    | some fault => simp [Except.map]

/-- Reporting a secret leaves the transport alone. -/
theorem transport_report (direction : Direction) (level : Code) (secret : Bytes)
    (endpoint : Endpoint) :
    (report direction level secret endpoint).state.transport = endpoint.transport := by
  rw [report_eq]
  split <;> rfl

/-- The endpoint with another epoch in one direction. -/
def withEpoch (endpoint : Endpoint) (direction : Direction) (epoch : Epoch) : Endpoint :=
  { endpoint with transport := endpoint.transport.setEpoch direction epoch }

/-- An epoch does not matter for the label of a secret. -/
@[simp] theorem label?_withEpoch (endpoint : Endpoint) (direction direction' : Direction)
    (epoch : Epoch) (level : Code) :
    (endpoint.withEpoch direction epoch).label? direction' level =
      endpoint.label? direction' level := by
  cases direction <;> rfl

/-- The epoch that an endpoint has anyway. -/
@[simp] theorem withEpoch_epoch (endpoint : Endpoint) (direction : Direction) :
    endpoint.withEpoch direction (endpoint.transport.epoch direction) = endpoint := by
  cases direction <;> rfl

@[simp] theorem epoch_withEpoch (endpoint : Endpoint) (direction : Direction) (epoch : Epoch) :
    (endpoint.withEpoch direction epoch).transport.epoch direction = epoch := by
  cases direction <;> rfl

/-- An installation, step by step. -/
theorem install_eq (direction : Direction) (level : Code) (suite : Int) (secret : Secret)
    (endpoint : Endpoint) :
    install direction level suite secret endpoint =
      match Epoch.install level suite secret (endpoint.transport.epoch direction) with
      | { result := .error cause, state := epoch, .. } =>
        { result := .error cause, state := endpoint.withEpoch direction epoch }
      | { result := .ok (), state := epoch, .. } =>
        let reported := report direction level epoch.secret (endpoint.withEpoch direction epoch)
        { reported with
          notes := match reported.result with
            | .ok () => [.installed direction epoch.level epoch.suite epoch.secret.length]
            | .error _ => [] } := by
  have hnotes := Epoch.notes_install level suite secret (endpoint.transport.epoch direction)
  rw [install, onEpoch, onTransport, Act.bind_apply]
  simp only [Act.focus_apply]
  generalize Epoch.install level suite secret (endpoint.transport.epoch direction) = installed
    at hnotes ⊢
  obtain ⟨_ | _, epoch, notes⟩ := installed
  all_goals obtain rfl := hnotes
  · rfl
  · have hepoch := epoch_withEpoch endpoint direction epoch
    simp only [withEpoch] at hepoch ⊢
    simp only [Act.bind_apply, Act.get_apply, hepoch, report_eq]
    cases label? { transport := endpoint.transport.setEpoch direction epoch, log := endpoint.log }
      direction level with
    | none => rfl
    | some label =>
      cases endpoint.log.fault with
      | none => rfl
      | some fault => rfl

end Endpoint

end RecordLayer
