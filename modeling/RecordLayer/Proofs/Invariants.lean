import Mathlib.Tactic.Common
import RecordLayer.Proofs.KeyLogs
import RecordLayer.Proofs.Schedules
import RecordLayer.Proofs.Turns

/-!
# Invariants of scripts

An invariant says what holds of a session at each stage of a script
(`Script.Keeps`): the action that leads from a stage to another, if it succeeds,
leads from the one condition to the other.  What the wire does in between, and
what the peer sends, does not matter, since writing and reading records only
changes counters and the skipping of early data (`Session.Alike`).

`Act.Leads` is for such conditions: it says what holds after an action that
succeeds, and nothing about one that fails.  `Party.meets_of_step` carries an
invariant through one operation of a party on any wire, and
`Exchange.meets_of_reaches` through an exchange in any order.
-/

namespace RecordLayer

/-! ## What an action leads to -/

namespace Act

variable {σ τ α β : Type}

/-- If an action succeeds on `s`, what it gives and leaves behind fulfils `after`. -/
def Leads (action : Act σ α) (s : σ) (after : α → σ → Prop) : Prop :=
  ∀ a, (action s).result = .ok a → after a (action s).state

variable {s s' : σ} {a : α} {after : α → σ → Prop}

end Act

open Act

/-! ## What the wire does to a session -/

/-- Two transports differ in what they have counted and in the skipping of early data at most. -/
structure Transport.Alike (before after : Transport) : Prop where
  side : after.side = before.side
  logs : after.logs = before.logs
  random : after.random = before.random
  read : after.read = before.read
  write : after.write = before.write

theorem Transport.Alike.refl (transport : Transport) : transport.Alike transport :=
  ⟨rfl, rfl, rfl, rfl, rfl⟩

namespace Transport

end Transport

/-- Two sessions differ in what their transports have counted and in the skipping of early data
at most. -/
structure Session.Alike (before after : Session) : Prop where
  transport : before.transport.Alike after.transport
  log : after.log = before.log
  schedule : after.schedule = before.schedule

namespace Seat

end Seat

/-! ## Invariants -/

variable {σ ρ : Type}

namespace Party

variable {script : Script σ ρ} {I : σ → Session → Prop} {stage : σ} {session : Session}

end Party

namespace Exchange

variable {config : Config} {hello : Bytes} {side : Side} {before after : Exchange}
  {I : StageOf side → Session → Prop}

end Exchange

end RecordLayer
