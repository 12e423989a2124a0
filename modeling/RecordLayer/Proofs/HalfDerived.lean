import Mathlib.Tactic.Common
import RecordLayer.Proofs.Derivations

/-!
# Derivations that stop half way

A derivation stores a secret of the stem before it expands traffic secrets from
it.  An expansion fails under a context of more than 255 bytes, and the secret
that was stored before it stays: what a derivation that failed leaves behind is
not always what it found.

There are three groups.

* One call.  No failure touches the traffic secrets of any level, and a call
  under a short context that fails (`Call.Short`) touches nothing.  Under a long
  one each derivation leaves a secret of the stem behind.
* What can be gone on from.  The application secrets are derived once a
  handshake derivation was called, also if it has failed
  (`isOk_application_iff`), so that they can be there without those of the
  handshake (`application_without_handshake`).
* Runs under short contexts, as hashes are.  `Backed` is the invariant that a
  secret of the stem has come with its traffic secrets; `Backed.course` is its
  step.

`failures_of_derivations` puts the three together.
-/

namespace RecordLayer

namespace KeySchedule

/-! ## One call -/

/-- The context that a call expands traffic secrets under, if it does, has at
most 255 bytes. -/
def Call.Short : Call → Prop
  | .early _ (some hash) | .handshake _ hash | .application hash => hash.length ≤ 255
  | _ => True

section Failure

variable {schedule later : KeySchedule} {call : Call} {cause : Error}

/-- A call that fails gives no traffic secrets, so it stores none. -/
theorem Course.traffic?_of_error (h : Course schedule call (.error cause) later) (level : Level) :
    later.traffic? level = schedule.traffic? level := by
  have hnothing : given? call (.error cause) level = none := by
    cases call <;> rfl
  rw [h.traffic?_eq, hnothing, Option.none_or]

/-- Under a short context a failure comes before anything is stored. -/
theorem Course.eq_of_short (h : Course schedule call (.error cause) later) (hshort : call.Short) :
    later = schedule := by
  generalize hresult : Except.error cause = result at h
  cases h with
  | lookedUp | applicationTooSoon => rfl
  | earlyHalf _ _ hlong | handshakeHalf _ _ hlong | applicationHalf _ _ _ hlong =>
    exact absurd hshort (Nat.not_le.2 hlong)
  | hashed | verified | early | earlyWhole | handshakeWhole | applicationWhole => cases hresult

end Failure

section Long

variable (schedule : KeySchedule) {hash : Bytes} (h : 255 < hash.length)
include h

theorem perform_early_of_long (psk : Option Bytes) :
    (perform (.early psk (some hash)) schedule).result = .error .badField ∧
      (perform (.early psk (some hash)) schedule).state =
        { schedule with early := some (KeyTree.early schedule.suite (psk.getD [])) } := by
  rw [perform_early, deriveEarly_of_long psk h]
  exact ⟨rfl, rfl⟩

theorem perform_handshake_of_long (shared : Bytes) :
    (perform (.handshake shared hash) schedule).result = .error .badField ∧
      (perform (.handshake shared hash) schedule).state =
        { schedule with
          early := some schedule.earlyOr
          handshake := some (schedule.handshakeWith shared) } := by
  rw [perform_handshake, deriveHandshake_of_long shared h]
  exact ⟨rfl, rfl⟩

theorem perform_application_of_long {handshake : Bytes}
    (hhandshake : schedule.handshake = some handshake) :
    (perform (.application hash) schedule).result = .error .badField ∧
      (perform (.application hash) schedule).state =
        { schedule with master := some (KeyTree.master schedule.suite handshake) } := by
  rw [perform_application, deriveApplication_of_long h hhandshake]
  exact ⟨rfl, rfl⟩

end Long

/-! ## What can be gone on from -/

/-- The application secrets are derived from a handshake secret and under a
short context. -/
theorem isOk_application_iff (schedule : KeySchedule) (hash : Bytes) :
    (∃ answer, (perform (.application hash) schedule).result = .ok answer) ↔
      hash.length ≤ 255 ∧ schedule.handshake.isSome := by
  have hcourse := course_perform (.application hash) schedule
  generalize (perform (.application hash) schedule).result = result at hcourse ⊢
  generalize (perform (.application hash) schedule).state = later at hcourse
  cases hcourse with
  | applicationTooSoon _ hmissing => simp [hmissing]
  | applicationHalf _ _ _ hlong => simp [hlong]
  | applicationWhole _ _ _ _ hhandshake hshort => simp [hhandshake, hshort]

/-- A handshake derivation that fails before any has succeeded changes the early
and the handshake secret.  The application secrets can be derived from what it
leaves behind, and there are still none of the handshake. -/
theorem application_after_failure {schedule : KeySchedule} (hearly : schedule.early = none)
    (hhandshake : schedule.handshake = none) (htraffic : schedule.handshakeTraffic = none)
    (shared : Bytes) {long short : Bytes} (hlong : 255 < long.length)
    (hshort : short.length ≤ 255) :
    let failed := perform (.handshake shared long) schedule
    let derived := perform (.application short) failed.state
    failed.result = .error .badField ∧
      failed.state.early ≠ schedule.early ∧ failed.state.handshake ≠ schedule.handshake ∧
      (∃ answer, derived.result = .ok answer) ∧
      derived.state.applicationTraffic.isSome ∧ derived.state.handshakeTraffic = none := by
  intro failed derived
  obtain ⟨hresult, hstate⟩ : failed.result = .error .badField ∧ failed.state = _ :=
    perform_handshake_of_long schedule hlong shared
  have hsecret : failed.state.handshake = some (schedule.handshakeWith shared) := by
    rw [hstate]
  have hderived := perform_application short failed.state
  rw [deriveApplication_apply hshort hsecret] at hderived
  have hnone : derived.state.handshakeTraffic = failed.state.handshakeTraffic :=
    congrArg (fun outcome => outcome.state.handshakeTraffic) hderived
  refine ⟨hresult, ?_, ?_, ⟨_, congrArg Outcome.result hderived⟩,
    congrArg (fun outcome => outcome.state.applicationTraffic.isSome) hderived, ?_⟩
  · rw [hstate, hearly]
    exact Option.some_ne_none _
  · rw [hsecret, hhandshake]
    exact Option.some_ne_none _
  · rw [hnone, hstate]
    exact htraffic

/-- The application secrets are there, and those of the handshake are not: their
derivation has failed under a context that is one byte too long. -/
theorem application_without_handshake :
    let start : KeySchedule := { suite := .aes128GcmSha256 }
    let failed := perform (.handshake (List.replicate 32 0) (List.replicate 256 0)) start
    let derived := perform (.application (List.replicate 32 0)) failed.state
    failed.result = .error .badField ∧
      failed.state.early ≠ start.early ∧ failed.state.handshake ≠ start.handshake ∧
      (∃ answer, derived.result = .ok answer) ∧
      derived.state.applicationTraffic.isSome ∧ derived.state.handshakeTraffic = none := by
  have hlong : 255 < (List.replicate 256 (0 : UInt8)).length := by
    rw [List.length_replicate]
    decide
  have hshort : (List.replicate 32 (0 : UInt8)).length ≤ 255 := by
    rw [List.length_replicate]
    decide
  exact application_after_failure rfl rfl rfl _ hlong hshort

/-! ## Runs under short contexts -/

/-- A handshake or a master secret has come with its traffic secrets. -/
structure Backed (schedule : KeySchedule) : Prop where
  handshake : schedule.handshakeTraffic.isSome = schedule.handshake.isSome
  application : schedule.applicationTraffic.isSome = schedule.master.isSome

theorem backed_start (suite : CipherSuite) : Backed { suite } := ⟨rfl, rfl⟩

/-- A call under a short context stores a secret together with its traffic
secrets, or neither. -/
theorem Backed.course {schedule later : KeySchedule} {call : Call} {result : Result Answer}
    (h : Backed schedule) (hcourse : Course schedule call result later) (hshort : call.Short) :
    Backed later := by
  cases hcourse with
  | hashed | lookedUp | verified | applicationTooSoon => exact h
  | early | earlyWhole => exact ⟨h.handshake, h.application⟩
  | handshakeWhole => exact ⟨rfl, h.application⟩
  | applicationWhole => exact ⟨h.handshake, rfl⟩
  | earlyHalf _ _ hlong | handshakeHalf _ _ hlong | applicationHalf _ _ _ hlong =>
    exact absurd hshort (Nat.not_le.2 hlong)

theorem backed_after {schedule : KeySchedule} (h : Backed schedule) {calls : List Call}
    (hshort : ∀ call ∈ calls, call.Short) : Backed (after schedule calls) := by
  induction calls generalizing schedule with
  | nil => exact h
  | cons call calls ih =>
    obtain ⟨hfirst, hothers⟩ := List.forall_mem_cons.1 hshort
    exact ih (h.course (course_perform call schedule) hfirst) hothers

/-- What was given last was given by a call of the history. -/
theorem exists_event_of_lastGiven? {history : List Event} {level : Level}
    {traffic : TrafficSecrets} (h : lastGiven? history level = some traffic) :
    ∃ event ∈ history, given? event.call event.result level = some traffic :=
  List.mem_filterMap.1 (List.mem_of_getLast? h)

/-- Traffic secrets of the handshake are given by a handshake derivation that
succeeds. -/
theorem exists_of_given?_handshake {call : Call} {result : Result Answer}
    {traffic : TrafficSecrets} (h : given? call result .handshake = some traffic) :
    ∃ shared hash secret, call = .handshake shared hash ∧
      result = .ok (.handshake traffic secret) := by
  unfold given? at h
  split at h
  · contradiction
  · cases h
    exact ⟨_, _, _, rfl, rfl⟩
  · contradiction
  · cases h

/-- Under short contexts a handshake secret means that a handshake derivation
has succeeded. -/
theorem exists_succeeded_of_handshake {suite : CipherSuite} {calls : List Call}
    (hshort : ∀ call ∈ calls, call.Short) (h : (after { suite } calls).handshake.isSome) :
    ∃ event ∈ events { suite } calls, ∃ shared hash traffic secret,
      event.call = .handshake shared hash ∧ event.result = .ok (.handshake traffic secret) := by
  rw [← (backed_after (backed_start suite) hshort).handshake] at h
  obtain ⟨traffic, htraffic⟩ := Option.isSome_iff_exists.1 h
  have hlast : lastGiven? (events { suite } calls) .handshake = some traffic := by
    have hgiven := traffic?_after { suite } calls .handshake
    rw [traffic?, htraffic] at hgiven
    exact Option.or_none.symm.trans hgiven.symm
  obtain ⟨event, hmem, hevent⟩ := exists_event_of_lastGiven? hlast
  obtain ⟨shared, hash, secret, hcall, hresult⟩ := exists_of_given?_handshake hevent
  exact ⟨event, hmem, shared, hash, traffic, secret, hcall, hresult⟩

/-! ## The assembly -/

/-- What a derivation that fails leaves behind, after any calls on a new key
schedule.

No failure touches the traffic secrets of any level.  Under a context of at
most 255 bytes a failure touches nothing; under a longer one the early
derivation leaves a new early secret behind, the handshake derivation a new
handshake secret and the application derivation, if it does not come too soon,
a new master secret.  So the application secrets can be derived exactly if a
handshake derivation was called.  If all contexts were short, then one has
succeeded, and there are no application secrets without those of the
handshake. -/
theorem failures_of_derivations (suite : CipherSuite) (calls : List Call) :
    let now := after { suite } calls
    (∀ call cause, (perform call now).result = .error cause →
      (∀ level, (perform call now).state.traffic? level = now.traffic? level) ∧
      (call.Short → (perform call now).state = now)) ∧
    (∀ hash, 255 < hash.length →
      (∀ psk, (perform (.early psk (some hash)) now).result = .error .badField ∧
        (perform (.early psk (some hash)) now).state =
          { now with early := some (KeyTree.early suite (psk.getD [])) }) ∧
      (∀ shared, (perform (.handshake shared hash) now).result = .error .badField ∧
        (perform (.handshake shared hash) now).state =
          { now with
            early := some now.earlyOr
            handshake := some (KeyTree.handshake suite now.earlyOr shared) }) ∧
      ∀ handshake ∈ now.handshake,
        (perform (.application hash) now).result = .error .badField ∧
        (perform (.application hash) now).state =
          { now with master := some (KeyTree.master suite handshake) }) ∧
    (now.handshake = none → ∀ hash,
      (perform (.application hash) now).result = .error .handshakeSecretMissing ∧
      (perform (.application hash) now).state = now) ∧
    (∀ hash, (∃ answer, (perform (.application hash) now).result = .ok answer) ↔
      hash.length ≤ 255 ∧ ∃ shared context, Call.handshake shared context ∈ calls) ∧
    ((∀ call ∈ calls, call.Short) →
      (now.applicationTraffic.isSome → now.handshakeTraffic.isSome) ∧
      ∀ hash answer, (perform (.application hash) now).result = .ok answer →
        ∃ event ∈ events { suite } calls, ∃ shared context traffic secret,
          event.call = .handshake shared context ∧
          event.result = .ok (.handshake traffic secret)) := by
  intro now
  have hsuite : now.suite = suite := suite_after { suite } calls
  refine ⟨?_, ?_, ?_, ?_, ?_⟩
  · intro call cause herror
    have hcourse := course_perform call now
    rw [herror] at hcourse
    exact ⟨hcourse.traffic?_of_error, hcourse.eq_of_short⟩
  · intro hash hlong
    rw [← hsuite]
    exact ⟨perform_early_of_long now hlong, perform_handshake_of_long now hlong,
      fun _ => perform_application_of_long now hlong⟩
  · intro hmissing hash
    rw [perform_application, deriveApplication_of_none hash hmissing]
    exact ⟨rfl, rfl⟩
  · intro hash
    rw [isOk_application_iff, isSome_handshake_after]
    simp
  · intro hshort
    have hbacked : Backed now := backed_after (backed_start suite) hshort
    have hstem : Stem suite now.early now.handshake now.master :=
      hsuite ▸ (inOrder_after (inOrder_start suite) calls).stem
    constructor
    · intro happlication
      rw [hbacked.application] at happlication
      rw [hbacked.handshake]
      exact hstem.handshake_of_master happlication
    · intro hash answer hok
      have hhandshake := ((isOk_application_iff now hash).1 ⟨answer, hok⟩).2
      exact exists_succeeded_of_handshake hshort hhandshake

end KeySchedule

end RecordLayer
