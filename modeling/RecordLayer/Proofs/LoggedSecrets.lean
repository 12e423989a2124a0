import Mathlib.Data.List.Basic
import Mathlib.Tactic.Common
import RecordLayer.Proofs.Handshaking
import RecordLayer.Proofs.ReportedSecrets
import RecordLayer.Proofs.SentRecords

/-!
# The key log of an exchange

The client alone keeps a key log, and yet it serves for the records of both
sides: once an exchange has come to its end, the line for the level of a record
and its sender holds the secret in front of that record, in whatever order the
sides took their turns.

All orders come to the same exchange (`Exchange.reaches_end_of_reaches`), so it is
enough to follow one of them.  `Exchange.Arrives` does that turn by turn, with
what each side has put on the wire so far, and finds the client twice: at its
Finished message, where its key schedule and its epochs show that its secrets are
those of the conversation, and at its end, where it has reported all of them
(`Client.keeps_reports`) and derived nothing since (`Client.keeps_settled`).
-/

namespace RecordLayer

/-! ## The secrets of a conversation -/

namespace Conversation

variable (talk : Conversation)

/-- The traffic secret that a side sends with at a level, empty if there is none. -/
def secretOf (talk : Conversation) : Level → Side → Bytes
  | .earlyData, .client => (Client.earlyEpoch talk.keys.suite talk.clientHello).secret
  | .handshake, sender => talk.secrets.of sender
  | .application, sender => talk.application.of sender
  | _, _ => []

/-- All records that a side sends, `count` of them early data. -/
def sentRecords (count : Nat) : Side → List Record
  | .client =>
    Epoch.stamp {} .handshake talk.clientHello :: talk.earlyRecords count ++ talk.clientFlight
  | .server => talk.serverFlight ++ [talk.pong]

variable {talk} {count : Nat} {level : Level} {sender : Side}

end Conversation

/-! ## One order of turns -/

namespace Exchange

variable {config : Config} {hello : Bytes} {suite : CipherSuite} {count : Nat} {talk : Conversation}
  {log : KeyLog}

/-- An exchange has come to a scene, and its sides have put some bytes on the wire. -/
structure Arrives (config : Config) (hello : Bytes) (scene : Scene) (written : Side → Bytes)
    (exchange : Exchange) : Prop where
  shows : scene.Shows config hello exchange
  noted : ∀ side, exchange.noted side = written side

/-- One side goes on, and puts some more bytes on the wire. -/
theorem Arrives.goes {scene : Scene} {written : Side → Bytes} {exchange : Exchange}
    (h : Arrives config hello scene written exchange) (side : Side)
    {place : Party.Place (StageOf side)}
    (hgoes : Party.Goes (scriptOf config hello side) false (scene.place side) place) {bytes : Bytes}
    (hsent : place.sent = (scene.place side).sent ++ bytes) :
    ∃ exchange', Reaches config hello exchange exchange' ∧
      Arrives config hello (scene.moveTo side place)
        (Function.update written side (written side ++ bytes)) exchange' := by
  obtain ⟨party, wire, hreach, shows⟩ := h.shows.goes hgoes
  obtain ⟨notes, hnotes, hnoted⟩ :=
    Party.exists_notes_of_reaches (composed_scriptOf config hello side).respects hreach
  refine ⟨exchange.withParty side party wire, reaches_of_party hreach, shows, fun side' => ?_⟩
  rcases side'.eq_or_eq_peer side with rfl | rfl
  · have hbefore := congrArg Channel.queue (h.shows side').wire.outgoing
    have hafter := congrArg Channel.queue (shows side').wire.outgoing
    rw [link_withParty, Link.wire_setWire, Scene.place_moveTo] at hafter
    have hqueue := hnoted.sent
    dsimp only [Party.seat] at hbefore hafter hqueue
    rw [hafter, hbefore, hsent] at hqueue
    rw [Function.update_self, List.append_cancel_left hqueue, ← h.noted side', Exchange.noted,
      party_withParty, hnotes, Note.sentRecords_append, Record.stream_append]
    rfl
  · rw [Function.update_of_ne side.peer_ne, Exchange.noted, party_peer_withParty]
    exact h.noted side.peer

end Exchange

end RecordLayer
