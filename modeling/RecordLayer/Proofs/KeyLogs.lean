import Mathlib.Tactic.Common
import RecordLayer.Proofs.Actions
import RecordLayer.Proofs.Directions
import RecordLayer.Proofs.Installing
import RecordLayer.Proofs.Respecting
import RecordLayer.Proofs.Writing

/-!
# The key log only grows

An installation writes a line to the key log or leaves it alone, and nothing else
touches it.  So whatever a script does, lines are only added
(`KeyLog.Grows`): `Session.Composed.addsToLog` says so for each action of the two
scripts, and `Party.grows_of_reaches` for any part of a run.
-/

namespace RecordLayer

namespace KeyLog

variable {first second third : KeyLog}

/-- Something has been added to a key log, or nothing has changed. -/
def Grows (before after : KeyLog) : Prop := ∃ growth, after = before.grownBy growth

theorem Grows.refl (log : KeyLog) : log.Grows log := ⟨{}, (grownBy_nothing log).symm⟩

theorem Grows.trans (h : first.Grows second) (h' : second.Grows third) : first.Grows third := by
  obtain ⟨growth, rfl⟩ := h
  obtain ⟨growth', rfl⟩ := h'
  exact ⟨growth.then growth', grownBy_grownBy first growth growth'⟩

/-- The text of lines is the text of the first ones and that of the others. -/
theorem textOf_append (entries more : List Entry) :
    textOf (entries ++ more) = textOf entries ++ textOf more := by
  have hfold : ∀ (entries : List Entry) (out : String),
      entries.foldl (fun out entry => out ++ entry.line ++ "\n") out = out ++ textOf entries := by
    intro entries
    induction entries with
    | nil => intro out; exact (String.append_empty).symm
    | cons entry entries ih =>
      intro out
      simp only [textOf, List.foldl_cons]
      rw [ih, ih, String.empty_append]
      simp only [String.append_assoc]
  rw [textOf, List.foldl_append, hfold]
  rfl

/-- The text of a key log that has grown begins with what it was before. -/
theorem Grows.text {before after : KeyLog} (h : before.Grows after) {text : String}
    (htext : before.text? = some text) : ∃ more, after.text? = some (text ++ more) := by
  obtain ⟨growth, rfl⟩ := h
  unfold text? at htext ⊢
  cases hcreated : before.created with
  | false => rw [hcreated, if_neg Bool.false_ne_true] at htext; cases htext
  | true =>
    rw [hcreated, if_pos rfl] at htext
    obtain rfl := Option.some.inj htext
    refine ⟨textOf growth.entries, ?_⟩
    simp only [grownBy, hcreated, Bool.true_or, if_true, textOf_append]

/-- A line more, or none, is growth. -/
theorem grows_grown (log : KeyLog) (random : Bytes) (label : String) (secret : Bytes) :
    log.Grows (log.grown random label secret) :=
  ⟨{ created := true, entries := entriesFor random [(some label, secret)] },
    by simp only [grown, grownBy, Bool.or_true]⟩

end KeyLog

/-! ## Actions that only add to a key log -/

namespace Act

variable {σ τ α β : Type} {log : σ → KeyLog}

/-- An action only adds to a key log. -/
def AddsTo (log : σ → KeyLog) (action : Act σ α) : Prop :=
  ∀ s, (log s).Grows (log (action s).state)

/-- An action does not touch a key log. -/
theorem addsTo_of_eq {action : Act σ α} (h : ∀ s, log (action s).state = log s) :
    AddsTo log action := by
  intro s
  rw [h]
  exact KeyLog.Grows.refl _

theorem addsTo_bind {first : Act σ α} {second : α → Act σ β} (hfirst : AddsTo log first)
    (hsecond : ∀ a, AddsTo log (second a)) : AddsTo log (first >>= second) := by
  have composes : Composes fun (s s' : σ) (_ : List Note) => (log s).Grows (log s') :=
    ⟨fun s => KeyLog.Grows.refl (log s), KeyLog.Grows.trans⟩
  exact respects_bind composes hfirst hsecond

end Act

open Act

/-- An installation adds a line, or none. -/
theorem Endpoint.addsTo_install (direction : Direction) (level : Code) (suite : Int)
    (secret : Secret) : AddsTo Endpoint.log (install direction level suite secret) := by
  intro endpoint
  rw [install_eq]
  generalize Epoch.install level suite secret (endpoint.transport.epoch direction) = installed
  obtain ⟨_ | _, epoch, notes⟩ := installed
  · exact KeyLog.Grows.refl _
  · dsimp only
    rw [report_eq]
    split
    · exact KeyLog.Grows.refl _
    · exact KeyLog.Grows.refl _
    · exact KeyLog.grows_grown _ _ _ _

namespace Session

variable {α : Type}

/-- An action only adds to the key log of a session. -/
abbrev AddsToLog (action : Act Session α) : Prop := AddsTo (fun session => session.log) action

theorem addsTo_install (direction : Direction) (level : Level) (secret : Bytes) :
    AddsToLog (install direction level secret) :=
  addsTo_bind (addsTo_of_eq fun _ => rfl) fun session => fun session' =>
    Endpoint.addsTo_install direction (.number level.code) session.schedule.suite.code (.bytes secret)
      session'.toEndpoint

/-- Whatever a script does, it only adds to the key log. -/
theorem Composed.addsToLog {action : Act Session α} (h : Composed action) : AddsToLog action := by
  induction h with
  | bind _ _ ihFirst ihSecond => exact addsTo_bind ihFirst ihSecond
  | install direction level secret => exact addsTo_install direction level secret
  | give | fail | compute | look | deriveEarly | deriveHandshake | deriveApplication | adjust =>
    exact addsTo_of_eq fun _ => rfl

end Session

/-! ## Runs of scripts -/

/-- Every stage of a script only adds to the key log. -/
def Script.AddsToLog {σ ρ : Type} (script : Script σ ρ) : Prop :=
  ∀ stage, match script.ask stage with
    | .send _ _ next => Session.AddsToLog next
    | .receive next => ∀ delivery, Session.AddsToLog (next delivery)
    | .finish _ => True

theorem Script.Composed.addsToLog {σ ρ : Type} {script : Script σ ρ} (h : script.Composed) :
    script.AddsToLog := by
  intro stage
  have hstage := h stage
  cases hask : script.ask stage with
  | send type data next =>
    rw [hask] at hstage
    exact Session.Composed.addsToLog hstage
  | receive next =>
    rw [hask] at hstage
    exact fun delivery => Session.Composed.addsToLog (hstage delivery)
  | finish result => exact trivial

theorem Client.addsToLog_script (config : Config) : (script config).AddsToLog :=
  (composed_script config).addsToLog

theorem Server.addsToLog_script (config : Config) : (script config).AddsToLog :=
  (composed_script config).addsToLog

namespace Connection

/-- Writing a record does not touch the key log. -/
theorem log_writeRecord (type : Code) (data : Bytes) (connection : Connection) :
    (writeRecord type data connection).state.log = connection.log := by
  have hsends := sends_writeRecord type data connection
  generalize writeRecord type data connection = outcome at hsends ⊢
  cases hsends <;> rfl

end Connection

/-- A party only adds to the key log when its script does. -/
theorem Script.AddsToLog.respects {σ ρ : Type} {script : Script σ ρ} (h : script.AddsToLog) :
    script.Respects fun before after _ => before.log.Grows after.log where
  composes := ⟨fun seat => KeyLog.Grows.refl seat.log, KeyLog.Grows.trans⟩
  writes type data seat := by
    show seat.log.Grows (Connection.writeRecord type data seat.connection).state.log
    rw [Connection.log_writeRecord]
    exact KeyLog.Grows.refl _
  reads _ seat := KeyLog.Grows.refl seat.log
  next stage := by
    have hstage := h stage
    cases hask : script.ask stage with
    | send type data next =>
      rw [hask] at hstage
      exact fun seat => hstage seat.toSession
    | receive next =>
      rw [hask] at hstage
      exact fun delivery seat => hstage delivery seat.toSession
    | finish result => exact trivial
  closes h := h

/-- Whatever a run does, it only adds to the key log. -/
theorem Party.grows_of_reaches {σ ρ : Type} {script : Script σ ρ} (hscript : script.AddsToLog)
    {before after : Party σ ρ × Wire} (h : Reaches script before after) :
    before.1.session.log.Grows after.1.session.log := by
  obtain ⟨notes, -, hgrows⟩ := exists_notes_of_reaches hscript.respects h
  exact hgrows

end RecordLayer
