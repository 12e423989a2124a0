import Mathlib.Tactic.Common
import RecordLayer.Exchange.Script
import RecordLayer.Proofs.Framing
import RecordLayer.Proofs.Installing
import RecordLayer.Proofs.KeyTree

/-!
# What a script sees of its session

A view is the part of a session that decides how a script goes on: the suite,
both epochs, the skipping of early data and the secrets that later secrets
come from.  Counters of records and the key log do not matter for that, as
long as the key log can be written if it is used.

`Session.Gives` says what an action comes to in terms of views: on every
session with one view it succeeds with a value and leaves a session with
another view.  There is one lemma for each action that scripts are made of,
and `gives_bind` puts them together.
-/

namespace RecordLayer

/-- The epoch of a level under a suite. -/
def CipherSuite.epoch (suite : CipherSuite) (level : Level) (secret : Bytes) : Epoch :=
  { level := level.code, suite := suite.code, secret }

/-- An epoch at a known level under a known suite can be installed. -/
theorem Epoch.install_epoch (level : Level) (suite : CipherSuite) (secret : Bytes)
    (before : Epoch) :
    install (.number level.code) suite.code (.bytes secret) before =
      { result := .ok (), state := suite.epoch level secret } := by
  cases level <;> cases suite <;> rfl

/-- A record of such an epoch fits if it is not too long. -/
theorem CipherSuite.fits_stamp {suite : CipherSuite} {level : Level} {secret data : Bytes}
    (type : RecordType) (h : secret.length + data.length < 4294967296) :
    ((suite.epoch level secret).stamp type data).Fits where
  tag := by
    show 0 ≤ type.tag ∧ type.tag < 256
    cases type <;> decide
  level := by
    show 0 ≤ level.code ∧ level.code < 256
    cases level <;> decide
  suite := by
    show 0 ≤ (suite.code : Int) ∧ (suite.code : Int) < 65536
    cases suite <;> decide
  size := h

/-- A record of a fresh epoch fits if it is not too long. -/
theorem Epoch.fits_stamp_default {data : Bytes} (type : RecordType) (h : data.length < 4294967296) :
    (Epoch.stamp {} type data).Fits where
  tag := by
    show 0 ≤ type.tag ∧ type.tag < 256
    cases type <;> decide
  level := by
    show (0 : Int) ≤ 0 ∧ (0 : Int) < 256
    decide
  suite := by
    show (0 : Int) ≤ 0 ∧ (0 : Int) < 65536
    decide
  size := by
    show [].length + data.length < 4294967296
    simpa using h

namespace Session

/-- What decides how a script goes on. -/
structure View where
  suite : CipherSuite
  read : Epoch := {}
  write : Epoch := {}
  skipping : Bool := false
  skipped : Nat := 0
  early : Option Bytes := none
  handshake : Option Bytes := none
  earlyTraffic : Option TrafficSecrets := none

namespace View

/-- The view with another epoch in one direction. -/
def withEpoch (view : View) (direction : Direction) (epoch : Epoch) : View :=
  match direction with
  | .read => { view with read := epoch }
  | .write => { view with write := epoch }

/-- The early secret that the handshake secret comes from. -/
def earlyOr (view : View) : Bytes := view.early.getD (KeyTree.early view.suite [])

end View

/-- A session has a view, and its key log can be written if it is used. -/
structure Shows (session : Session) (view : View) : Prop where
  suite : session.schedule.suite = view.suite
  read : session.transport.read = view.read
  write : session.transport.write = view.write
  skipping : session.transport.skipping = view.skipping
  skipped : session.transport.skipped = view.skipped
  early : session.schedule.early = view.early
  handshake : session.schedule.handshake = view.handshake
  earlyTraffic : session.schedule.earlyTraffic = view.earlyTraffic
  usable : session.transport.logs = true → session.log.fault = none

/-- An action gives a value on every session with the view `before`, and
leaves one with the view `after`. -/
def Gives {α : Type} (action : Act Session α) (before : View) (value : α) (after : View) : Prop :=
  ∀ session : Session, session.Shows before →
    (action session).result = .ok value ∧ (action session).state.Shows after

variable {α β : Type} {view middle after : View}

theorem gives_pure (a : α) : Gives (pure a) view a view :=
  fun _ shown => ⟨rfl, shown⟩

theorem gives_ofResult {result : Result α} {a : α} (h : result = .ok a) :
    Gives (Act.ofResult result) view a view :=
  fun _ shown => ⟨h, shown⟩

/-- One action after another. -/
theorem gives_bind {first : Act Session α} {second : α → Act Session β} {a : α} {b : β}
    (hfirst : Gives first view a middle) (hsecond : Gives (second a) middle b after) :
    Gives (first >>= second) view b after := by
  intro session shown
  obtain ⟨hresult, shown'⟩ := hfirst session shown
  rw [Act.bind_apply]
  generalize first session = outcome at hresult shown' ⊢
  obtain ⟨result, state, notes⟩ := outcome
  cases hresult
  exact hsecond state shown'

/-- A sequence fails if what follows an action that succeeds does. -/
theorem error_bind {first : Act Session α} {second : α → Act Session β} {a : α}
    {session : Session} (hfirst : Gives first view a after) (shown : session.Shows view)
    (hsecond : ∀ session' : Session, session'.Shows after →
      ∃ e, (second a session').result = .error e) :
    ∃ e, ((first >>= second) session).result = .error e := by
  obtain ⟨hresult, shown'⟩ := hfirst session shown
  rw [Act.bind_apply]
  generalize first session = outcome at hresult shown' ⊢
  obtain ⟨result, state, notes⟩ := outcome
  cases hresult
  exact hsecond state shown'

/-- What an action does with the session itself. -/
theorem gives_get {second : Session → Act Session β} {b : β}
    (h : ∀ session : Session, session.Shows view → Gives (second session) view b after) :
    Gives (Act.get >>= second) view b after :=
  fun session shown => h session shown session shown

/-- An action whose result is thrown away. -/
theorem gives_discard {action : Act Session α} {a : α} (h : Gives action view a after) :
    Gives (discard action) view () after := by
  intro session shown
  rw [Act.discard_apply]
  obtain ⟨hresult, shown'⟩ := h session shown
  exact ⟨by rw [hresult]; rfl, shown'⟩

/-! ## Keys -/

theorem gives_transcriptHash (messages : List Bytes) :
    Gives (transcriptHash messages) view (KeyTree.digest view.suite messages) view := by
  refine gives_get fun session shown => ?_
  rw [KeySchedule.transcriptHash_eq, shown.suite]
  exact gives_pure _

theorem gives_verifyData (trafficSecret : Bytes) (messages : List Bytes) :
    Gives (verifyData trafficSecret messages) view
      (KeyTree.verifyData view.suite trafficSecret (KeyTree.digest view.suite messages)) view := by
  refine gives_get fun session shown => gives_ofResult ?_
  rw [KeySchedule.verifyData_eq, KeySchedule.transcriptHash_eq, shown.suite]

/-- A report leaves everything but the lines of the key log as it was. -/
theorem report_of_usable (direction : Direction) (level : Code) (secret : Bytes)
    {endpoint : Endpoint} (usable : endpoint.transport.logs = true → endpoint.log.fault = none) :
    ∃ log, Endpoint.report direction level secret endpoint =
        { result := .ok (), state := { endpoint with log } } ∧
      (endpoint.transport.logs = true → log.fault = none) := by
  rw [Endpoint.report_eq]
  cases hlabel : endpoint.label? direction level with
  | none => exact ⟨endpoint.log, rfl, usable⟩
  | some label =>
    have hlogs : endpoint.transport.logs = true := by
      rw [Endpoint.label?] at hlabel
      split at hlabel
      next h => exact (Bool.and_eq_true_iff.1 h).1
      next => cases hlabel
    rw [usable hlogs]
    exact ⟨endpoint.log.grown endpoint.transport.random label secret, rfl, fun _ => usable hlogs⟩

/-- An installation changes one epoch of the view. -/
theorem gives_install (direction : Direction) (level : Level) (secret : Bytes) :
    Gives (install direction level secret) view ()
      (view.withEpoch direction (view.suite.epoch level secret)) := by
  refine gives_get fun session shown => ?_
  intro session' shown'
  have hepoch : Epoch.install (.number level.code) session.schedule.suite.code (.bytes secret)
      (session'.transport.epoch direction) =
        { result := .ok (), state := view.suite.epoch level secret } := by
    rw [Epoch.install_epoch, shown.suite]
  have husable : (session'.toEndpoint.withEpoch direction
      (view.suite.epoch level secret)).transport.logs = true → session'.log.fault = none := by
    cases direction <;> exact shown'.usable
  obtain ⟨log, hreport, hlog⟩ := @report_of_usable direction (.number level.code) secret
    (session'.toEndpoint.withEpoch direction (view.suite.epoch level secret)) husable
  simp only [onEndpoint, Act.focus_apply, Endpoint.install_eq, hepoch]
  rw [show (view.suite.epoch level secret).secret = secret from rfl, hreport]
  refine ⟨rfl, ?_⟩
  cases direction
  · exact { shown' with read := rfl, usable := hlog }
  · exact { shown' with write := rfl, usable := hlog }

/-- The early derivation with a key, for the ClientHello with a hash. -/
theorem gives_deriveEarly (psk : Bytes) {helloHash : Bytes} (h : helloHash.length ≤ 255) :
    let early := KeyTree.early view.suite psk
    let client := KeyTree.earlyTraffic view.suite early helloHash
    Gives (onSchedule (KeySchedule.deriveEarly (some psk) (some helloHash))) view (some client)
      { view with early := some early, earlyTraffic := some { client, server := [] } } := by
  intro early client session shown
  have hderive := KeySchedule.deriveEarly_apply (some psk) h session.schedule
  simp only [onSchedule, Act.focus_apply, hderive, shown.suite, Option.getD_some]
  exact ⟨rfl, { shown with suite := rfl, early := rfl, earlyTraffic := rfl }⟩

/-- The derivation of the handshake secrets. -/
theorem gives_deriveHandshake (shared : Bytes) {transcriptHash : Bytes}
    (h : transcriptHash.length ≤ 255) :
    let secret := KeyTree.handshake view.suite view.earlyOr shared
    Gives (onSchedule (KeySchedule.deriveHandshake shared transcriptHash)) view
      (KeyTree.handshakeTraffic view.suite secret transcriptHash, secret)
      { view with early := some view.earlyOr, handshake := some secret } := by
  intro secret session shown
  have hearly : session.schedule.earlyOr = view.earlyOr := by
    rw [KeySchedule.earlyOr, shown.early, shown.suite]
    rfl
  have hderive := KeySchedule.deriveHandshake_apply shared h session.schedule
  simp only [onSchedule, Act.focus_apply, hderive, shown.suite, hearly]
  exact ⟨rfl, { shown with suite := rfl, early := rfl, handshake := rfl }⟩

/-- The derivation of the application secrets. -/
theorem gives_deriveApplication {handshake transcriptHash : Bytes}
    (h : transcriptHash.length ≤ 255) (hhandshake : view.handshake = some handshake) :
    let secret := KeyTree.master view.suite handshake
    Gives (onSchedule (KeySchedule.deriveApplication transcriptHash)) view
      (KeyTree.applicationTraffic view.suite secret transcriptHash, secret) view := by
  intro secret session shown
  have hderive := KeySchedule.deriveApplication_apply h (shown.handshake.trans hhandshake)
  simp only [onSchedule, Act.focus_apply, hderive, shown.suite]
  exact ⟨rfl, { shown with suite := rfl }⟩

end Session

end RecordLayer
