import Mathlib.Tactic.Common
import RecordLayer.Exchange.Client
import RecordLayer.Exchange.Server

/-!
# What scripts are made of

Between two operations on the wire a script does only a few kinds of things with
its session: it computes, looks at the session, derives secrets, installs them,
and sets its transport to skip early data.  `Session.Composed` holds of every
action that is put together from these, and `Client.composed_script` and
`Server.composed_script` say that it holds at every stage of the two scripts.

So what all of these actions have in common, the scripts have as well, by
induction on how an action is put together.
-/

namespace RecordLayer

namespace Session

/-- An action is put together from what the scripts do. -/
inductive Composed : {α : Type} → Act Session α → Prop where
  | give {α : Type} (a : α) : Composed (pure a)
  | fail {α : Type} (e : Error) : Composed (Act.fail e : Act Session α)
  | compute {α : Type} (result : Result α) : Composed (Act.ofResult result)
  | look : Composed Act.get
  | bind {α β : Type} {first : Act Session α} {second : α → Act Session β}
      (hfirst : Composed first) (hsecond : ∀ a, Composed (second a)) :
      Composed (first >>= second)
  | deriveEarly (psk helloHash : Option Bytes) :
      Composed (onSchedule (KeySchedule.deriveEarly psk helloHash))
  | deriveHandshake (shared transcriptHash : Bytes) :
      Composed (onSchedule (KeySchedule.deriveHandshake shared transcriptHash))
  | deriveApplication (transcriptHash : Bytes) :
      Composed (onSchedule (KeySchedule.deriveApplication transcriptHash))
  | install (direction : Direction) (level : Level) (secret : Bytes) :
      Composed (install direction level secret)
  | adjust (f : Transport → Transport) :
      Composed (onEndpoint (Endpoint.onTransport (Act.modify f)))

theorem composed_discard {α : Type} {action : Act Session α} (h : Composed action) :
    Composed (discard action) :=
  .bind h fun _ => .give _

theorem composed_transcriptHash (messages : List Bytes) : Composed (transcriptHash messages) :=
  .bind .look fun _ => .give _

theorem composed_verifyData (trafficSecret : Bytes) (messages : List Bytes) :
    Composed (verifyData trafficSecret messages) :=
  .bind .look fun _ => .compute _

end Session

/-- Every stage of a script goes on with an action of this kind. -/
def Script.Composed {σ ρ : Type} (script : Script σ ρ) : Prop :=
  ∀ stage, match script.ask stage with
    | .send _ _ next => Session.Composed next
    | .receive next => ∀ delivery, Session.Composed (next delivery)
    | .finish _ => True

/-- Whether a script closes its end when it fails does not matter for that. -/
theorem Script.Composed.closing {σ ρ : Type} {script : Script σ ρ} (h : script.Composed)
    (closes : Bool) : Script.Composed { script with closesOnFailure := closes } := by
  intro stage
  have hstage := h stage
  dsimp only
  cases hask : script.ask stage with
  | send type data next => rw [hask] at hstage; exact hstage
  | receive next => rw [hask] at hstage; exact hstage
  | finish result => exact trivial

open Session

/-! ## The client's script -/

namespace Client

theorem composed_afterHello (config : Config) : Composed (afterHello config) := by
  unfold afterHello
  dsimp only
  split
  on_goal 1 =>
    refine .bind (composed_transcriptHash _) fun helloHash => ?_
    refine .bind (.deriveEarly _ _) fun secret => ?_
    refine .bind (.install _ _ _) fun _ => ?_
  -- from here on it is the same with early data and without
  all_goals
    split
    · exact .give _
    · exact .give _

theorem composed_onServerHello (config : Config) (delivery : Delivery) :
    Composed (onServerHello config delivery) := by
  refine .bind (.compute _) fun message => ?_
  refine .bind (.compute _) fun share => ?_
  refine .bind (.compute _) fun key => ?_
  refine .bind (.compute _) fun shared => ?_
  refine .bind (composed_transcriptHash _) fun hash => ?_
  refine .bind (.deriveHandshake _ _) fun secrets => ?_
  exact .bind (.install _ _ _) fun _ => .give _

theorem composed_onFlight (config : Config) (secrets : TrafficSecrets) (transcript : List Bytes)
    (delivery : Delivery) : Composed (onFlight config secrets transcript delivery) := by
  refine .bind (.compute _) fun message => ?_
  dsimp only
  split
  next verifyData h =>
    refine .bind (composed_verifyData _ _) fun expected => ?_
    split
    next => exact .fail _
    next =>
      refine .bind (composed_transcriptHash _) fun hash => ?_
      refine .bind (.deriveApplication _) fun application => ?_
      refine .bind (.install _ _ _) fun _ => ?_
      exact .bind (composed_verifyData _ _) fun _ => .give _
  next => exact .give _

theorem composed_afterFinished (config : Config) (application : TrafficSecrets) (message : Bytes) :
    Composed (afterFinished config application message) :=
  .bind (.install _ _ _) fun _ => .bind (.install _ _ _) fun _ => .give _

theorem composed_script (config : Config) : (script config).Composed := by
  intro stage
  cases stage with
  | hello => exact composed_afterHello config
  | early index left => cases left <;> exact .give _
  | serverHello => exact composed_onServerHello config
  | flight secrets transcript => exact composed_onFlight config secrets transcript
  | finished application message => exact composed_afterFinished config application message
  | ping => exact .give _
  | pong => exact fun _ => .give _
  | done data => exact trivial

end Client

/-! ## The server's script -/

namespace Server

theorem composed_onClientHello (config : Config) (delivery : Delivery) :
    Composed (onClientHello config delivery) := by
  refine .bind (.compute _) fun message => ?_
  refine .bind (.compute _) fun share => ?_
  refine .bind .look fun session => ?_
  exact .bind (.compute _) fun hello => .give _

theorem composed_afterServerHello (config : Config) (clientHello : Bytes)
    (share : Option Extension) (message : Bytes) :
    Composed (afterServerHello config clientHello share message) := by
  refine .bind (.compute _) fun key => ?_
  refine .bind (.compute _) fun shared => ?_
  dsimp only
  split
  on_goal 1 =>
    refine .bind (composed_transcriptHash _) fun helloHash => ?_
    refine .bind (composed_discard (.deriveEarly _ _)) fun _ => ?_
  -- from here on it is the same with early data and without
  all_goals
    refine .bind (composed_transcriptHash _) fun hash => ?_
    refine .bind (.deriveHandshake _ _) fun secrets => ?_
    refine .bind (.install _ _ _) fun _ => ?_
    exact .bind (.compute _) fun verify => .give _

theorem composed_afterFlight (secrets : TrafficSecrets) (transcript : List Bytes) (message : Bytes)
    (rest : List Bytes) : Composed (afterFlight secrets transcript message rest) := by
  cases rest with
  | cons next rest => exact .give _
  | nil => exact .bind (composed_verifyData _ _) fun _ => .give _

theorem composed_awaitFinished (secrets : Secrets) (transcript : List Bytes) :
    Composed (awaitFinished secrets transcript) :=
  .bind (.install _ _ _) fun _ => .give _

theorem composed_afterFinished (config : Config) (secrets : TrafficSecrets)
    (transcript : List Bytes) (message : Bytes) :
    Composed (afterFinished config secrets transcript message) := by
  refine .bind (composed_transcriptHash _) fun hash => ?_
  refine .bind (.deriveApplication _) fun application => ?_
  refine .bind (.install _ _ _) fun _ => ?_
  dsimp only
  split
  next left haccepts hleft =>
    refine .bind .look fun session => ?_
    refine .bind (.compute _) fun early => ?_
    exact .bind (.install _ _ _) fun _ => .give _
  next =>
    split
    on_goal 1 => refine .bind (.adjust _) fun _ => ?_
    all_goals exact .bind (composed_awaitFinished _ _) fun _ => .give _

theorem composed_onEarly (secrets : Secrets) (transcript : List Bytes) (left : Nat) :
    Composed (onEarly secrets transcript left) := by
  cases left with
  | succ left => exact .give _
  | zero => exact composed_awaitFinished secrets transcript

theorem composed_onClientFinished (secrets : Secrets) (transcript : List Bytes)
    (delivery : Delivery) : Composed (onClientFinished secrets transcript delivery) := by
  refine .bind (.compute _) fun message => ?_
  split
  next verifyData h =>
    refine .bind (composed_verifyData _ _) fun expected => ?_
    split
    next => exact .fail _
    next =>
      refine .bind .look fun session => ?_
      exact .bind (.install _ _ _) fun _ => .give _
  next => exact .fail _

theorem composed_script (config : Config) : (script config).Composed := by
  intro stage
  cases stage with
  | clientHello => exact composed_onClientHello config
  | serverHello clientHello share message =>
    exact composed_afterServerHello config clientHello share message
  | flight secrets transcript message rest =>
    exact composed_afterFlight secrets transcript message rest
  | finished secrets transcript message =>
    exact composed_afterFinished config secrets transcript message
  | early secrets transcript left => exact fun _ => composed_onEarly secrets transcript left
  | clientFinished secrets transcript => exact composed_onClientFinished secrets transcript
  | request skipped => exact fun _ => .give _
  | reply skipped data => exact .give _
  | done skipped => exact trivial

end Server

end RecordLayer
