import Mathlib.Tactic.Common
import Mathlib.Logic.Relation
import RecordLayer.Exchange.Basic
import RecordLayer.Proofs.Locality

/-!
# Schedules

The two sides of an exchange may take turns in any order, as long as the side
whose turn it is need not wait.  `Exchange.Reaches` leads to whatever some
order comes to.

The order does not matter.  When both sides can do their next operation, then
either still can after the other has, and both orders come to the same
exchange (`Exchange.step?_peer`).  So if one order leads both sides to their
ends without a failure (`Exchange.Completes`), every order leads on to the
same exchange at its end (`Exchange.reaches_end_of_reaches`), and none gets
stuck on the way or fails.
-/

namespace RecordLayer.Exchange

variable {config : Config} {hello : Bytes} {side : Side}

/-! ## Sides -/

/-- The stages of a side. -/
def StageOf : Side → Type
  | .client => Client.Stage
  | .server => Server.Stage

/-- The results of a side. -/
def SummaryOf : Side → Type
  | .client => Client.Summary
  | .server => Server.Summary

def scriptOf (config : Config) (hello : Bytes) : (side : Side) →
    Script (StageOf side) (SummaryOf side)
  | .client => clientScript config hello
  | .server => serverScript config

def party (exchange : Exchange) : (side : Side) → Party (StageOf side) (SummaryOf side)
  | .client => exchange.client
  | .server => exchange.server

/-- The exchange with another party on one side, and the link as that party
sees it. -/
def withParty (exchange : Exchange) : (side : Side) → Party (StageOf side) (SummaryOf side) →
    Wire → Exchange
  | .client, party, wire =>
    { exchange with client := party, link := exchange.link.setWire .client wire }
  | .server, party, wire =>
    { exchange with server := party, link := exchange.link.setWire .server wire }

section

variable (exchange : Exchange) (party : Party (StageOf side) (SummaryOf side)) (wire : Wire)

@[simp] theorem party_withParty : (exchange.withParty side party wire).party side = party := by
  cases side <;> rfl

@[simp] theorem party_peer_withParty :
    (exchange.withParty side party wire).party side.peer = exchange.party side.peer := by
  cases side <;> rfl

@[simp] theorem link_withParty :
    (exchange.withParty side party wire).link = exchange.link.setWire side wire := by
  cases side <;> rfl

@[simp] theorem withParty_withParty (party' : Party (StageOf side) (SummaryOf side))
    (wire' : Wire) :
    (exchange.withParty side party wire).withParty side party' wire' =
      exchange.withParty side party' wire' := by
  cases side <;> rfl

@[simp] theorem withParty_party :
    exchange.withParty side (exchange.party side) (exchange.link.wire side) = exchange := by
  cases side <;> rfl

end

theorem ext_party {exchange exchange' : Exchange} (side : Side)
    (hparty : exchange.party side = exchange'.party side)
    (hpeer : exchange.party side.peer = exchange'.party side.peer)
    (hlink : exchange.link = exchange'.link) : exchange = exchange' := by
  obtain ⟨client, server, link⟩ := exchange
  obtain ⟨client', server', link'⟩ := exchange'
  cases side with
  | client =>
    obtain rfl : client = client' := hparty
    obtain rfl : server = server' := hpeer
    rw [show link = link' from hlink]
  | server =>
    obtain rfl : server = server' := hparty
    obtain rfl : client = client' := hpeer
    rw [show link = link' from hlink]

/-- An operation of an exchange is one of a party on its wire. -/
theorem step?_eq_some_iff {before after : Exchange} :
    step? config hello side before = some after ↔
      ∃ party wire, Party.step? (scriptOf config hello side) (before.party side)
          (before.link.wire side) = some (party, wire) ∧
        before.withParty side party wire = after := by
  cases side with
  | client =>
    refine Option.map_eq_some_iff.trans ⟨?_, ?_⟩
    · rintro ⟨⟨party, wire⟩, hstep, rfl⟩
      exact ⟨party, wire, hstep, rfl⟩
    · rintro ⟨party, wire, hstep, rfl⟩
      exact ⟨(party, wire), hstep, rfl⟩
  | server =>
    refine Option.map_eq_some_iff.trans ⟨?_, ?_⟩
    · rintro ⟨⟨party, wire⟩, hstep, rfl⟩
      exact ⟨party, wire, hstep, rfl⟩
    · rintro ⟨party, wire, hstep, rfl⟩
      exact ⟨(party, wire), hstep, rfl⟩

/-- Whether a side has failed. -/
def failed (exchange : Exchange) : Side → Bool
  | .client => exchange.client.failed
  | .server => exchange.server.failed

theorem failed_eq (exchange : Exchange) (side : Side) :
    exchange.failed side = (exchange.party side).failed := by
  cases side <;> rfl

/-! ## Orders of operations -/

/-- Either side does its next operation. -/
def Steps (config : Config) (hello : Bytes) (before after : Exchange) : Prop :=
  ∃ side, step? config hello side before = some after

/-- The sides do any number of operations, in any order. -/
def Reaches (config : Config) (hello : Bytes) : Exchange → Exchange → Prop :=
  Relation.ReflTransGen (Steps config hello)

/-- No order goes on forever. -/
theorem wellFounded_steps (config : Config) (hello : Bytes) :
    WellFounded fun after before => Steps config hello before after := by
  have hlex : WellFounded (Prod.Lex (· < ·) (· < ·) : Nat × Nat → Nat × Nat → Prop) :=
    (Prod.lex Nat.lt_wfRel Nat.lt_wfRel).wf
  refine Subrelation.wf (fun {after before} h => ?_)
    (InvImage.wf (fun exchange => (rank config hello exchange, exchange.inFlight)) hlex)
  obtain ⟨side, hstep⟩ := h
  rcases step?_descends hstep with hrank | ⟨hrank, hbytes⟩
  · exact Prod.Lex.left _ _ hrank
  · rcases Nat.lt_or_eq_of_le hrank with hrank | hrank
    · exact Prod.Lex.left _ _ hrank
    · show Prod.Lex _ _ (_, _) (_, _)
      rw [hrank]
      exact Prod.Lex.right _ hbytes

/-- A side that has failed stays so. -/
theorem failed_of_step {before after : Exchange} (h : step? config hello side before = some after)
    {side' : Side} (hfailed : before.failed side' = true) : after.failed side' = true := by
  obtain ⟨party, wire, hstep, rfl⟩ := step?_eq_some_iff.1 h
  rw [failed_eq] at hfailed ⊢
  rcases side'.eq_or_eq_peer side with rfl | rfl
  · rw [Party.failed] at hfailed
    split at hfailed
    next hstatus =>
      simp only [Party.step?, hstatus] at hstep
      cases hstep
    next => cases hfailed
  · rw [party_peer_withParty]
    exact hfailed

/-! ## Exchanges without a failure -/

/-- A link that nothing is special about, with bytes in both directions: those
that a side has not read, and those that it has sent. -/
def openLink : (side : Side) → (unread sent : Bytes) → Link
  | .client, unread, sent => { toClient := { queue := unread }, toServer := { queue := sent } }
  | .server, unread, sent => { toClient := { queue := sent }, toServer := { queue := unread } }

@[simp] theorem openLink_peer (side : Side) (unread sent : Bytes) :
    openLink side.peer sent unread = openLink side unread sent := by
  cases side <;> rfl

@[simp] theorem wire_openLink (side : Side) (unread sent : Bytes) :
    (openLink side unread sent).wire side = .between unread sent := by
  cases side <;> rfl

@[simp] theorem setWire_openLink (side : Side) (unread sent unread' sent' : Bytes) :
    (openLink side unread sent).setWire side (.between unread' sent') =
      openLink side unread' sent' := by
  cases side <;> rfl

/-- Nothing is closed, and whole records stand behind the rest of the record
under way in both directions. -/
def Sound (config : Config) (hello : Bytes) (exchange : Exchange) : Prop :=
  ∃ toClient toServer, exchange.link = openLink .client toClient toServer ∧
    Party.Ready (clientScript config hello) exchange.client.status toClient ∧
    Party.Ready (serverScript config) exchange.server.status toServer

/-- What is sound looks alike from both sides. -/
theorem sound_iff {exchange : Exchange} (side : Side) :
    Sound config hello exchange ↔ ∃ unread sent, exchange.link = openLink side unread sent ∧
      Party.Ready (scriptOf config hello side) (exchange.party side).status unread ∧
      Party.Ready (scriptOf config hello side.peer) (exchange.party side.peer).status sent := by
  cases side with
  | client => exact Iff.rfl
  | server =>
    constructor
    · rintro ⟨toClient, toServer, hlink, hclient, hserver⟩
      exact ⟨toServer, toClient, hlink, hserver, hclient⟩
    · rintro ⟨toServer, toClient, hlink, hserver, hclient⟩
      exact ⟨toClient, toServer, hlink, hclient, hserver⟩

variable {before after after' : Exchange} {unread sent : Bytes}

/-- What a ready side does on a link that goes on. -/
theorem step?_of_moves {party : Party (StageOf side) (SummaryOf side)} {taken : Nat}
    {written : Bytes} {closes : Bool}
    (moves : Party.Moves (scriptOf config hello side) (before.party side) unread party taken
      written closes)
    {more : Bytes} (hlink : before.link = openLink side (unread ++ more) sent) :
    ∃ after, step? config hello side before = some after ∧
      after.party side = party ∧ after.party side.peer = before.party side.peer ∧
      (closes = false →
        after.link = openLink side (unread.drop taken ++ more) (sent ++ written)) := by
  have hwire : Wire.between (unread ++ more) sent = before.link.wire side := by
    rw [hlink, wire_openLink]
  have hstep := moves.step more sent
  rw [hwire] at hstep
  refine ⟨_, step?_eq_some_iff.2 ⟨_, _, hstep, rfl⟩, party_withParty .., party_peer_withParty .., ?_⟩
  rintro rfl
  rw [link_withParty, if_neg Bool.false_ne_true, hlink, setWire_openLink,
    List.drop_append_of_le_length moves.taken_le]

/-- An operation of a ready side is one that it can do on a link that goes on. -/
theorem exists_moves (hlink : before.link = openLink side unread sent)
    (ready : Party.Ready (scriptOf config hello side) (before.party side).status unread)
    (h : step? config hello side before = some after) :
    ∃ taken written closes, Party.Moves (scriptOf config hello side) (before.party side) unread
        (after.party side) taken written closes ∧
      after.party side.peer = before.party side.peer ∧
      (after.failed side = false →
        closes = false ∧ after.link = openLink side (unread.drop taken) (sent ++ written)) := by
  obtain ⟨party, wire, hstep, hafter⟩ := step?_eq_some_iff.1 h
  rw [hlink, wire_openLink] at hstep
  obtain ⟨taken, written, party', closes, moves⟩ := Party.exists_moves ready hstep
  have hlink' : before.link = openLink side (unread ++ []) sent := by
    rw [hlink, List.append_nil]
  obtain ⟨after', h', hparty, hpeer, hopen⟩ := step?_of_moves moves hlink'
  obtain rfl : after = after' := Option.some.inj (h.symm.trans h')
  subst hparty
  refine ⟨taken, written, closes, moves, hpeer, fun hok => ?_⟩
  rw [failed_eq] at hok
  cases closes with
  | true => exact absurd (moves.closed rfl) (Bool.eq_false_iff.1 hok)
  | false =>
    rw [List.append_nil] at hopen
    exact ⟨rfl, hopen rfl⟩

/-- An operation that does not fail keeps an exchange sound. -/
theorem sound_of_step (sound : Sound config hello before)
    (h : step? config hello side before = some after) (hok : after.failed side = false) :
    Sound config hello after := by
  obtain ⟨unread, sent, hlink, ready, ready'⟩ := (sound_iff side).1 sound
  obtain ⟨taken, written, closes, moves, hpeer, hafter⟩ := exists_moves hlink ready h
  obtain ⟨records, fits, rfl⟩ := moves.records
  refine (sound_iff side).2 ⟨_, _, (hafter hok).2, moves.ready (failed_eq after side ▸ hok), ?_⟩
  rw [hpeer]
  exact ready'.append fits

/-- The order of two operations does not matter, if the first does not fail:
the other side can do the same, and fails just as it would have. -/
theorem step?_peer (sound : Sound config hello before)
    (h : step? config hello side before = some after)
    (h' : step? config hello side.peer before = some after') (hok : after.failed side = false) :
    ∃ both, step? config hello side.peer after = some both ∧
      both.failed side.peer = after'.failed side.peer ∧
      (after'.failed side.peer = false → step? config hello side after' = some both) := by
  obtain ⟨unread, sent, hlink, ready, ready'⟩ := (sound_iff side).1 sound
  have hlink' : before.link = openLink side.peer sent unread := by rw [hlink, openLink_peer]
  obtain ⟨taken, written, closes, moves, hpeer, hafter⟩ := exists_moves hlink ready h
  obtain ⟨taken', written', closes', moves', hpeer', hafter'⟩ := exists_moves hlink' ready' h'
  rw [Side.peer_peer] at hpeer'
  obtain ⟨rfl, hlink₁⟩ := hafter hok
  rw [← openLink_peer] at hlink₁
  obtain ⟨both, hboth, hsecond, hfirst, hopen⟩ := step?_of_moves (hpeer ▸ moves') hlink₁
  rw [Side.peer_peer] at hfirst
  refine ⟨both, hboth, by rw [failed_eq, failed_eq, hsecond], fun hok' => ?_⟩
  obtain ⟨rfl, hlink₂⟩ := hafter' hok'
  rw [openLink_peer] at hlink₂
  obtain ⟨both', hboth', hfirst', hsecond', hopen'⟩ := step?_of_moves (hpeer' ▸ moves) hlink₂
  have hsame : both' = both := by
    refine ext_party side (hfirst'.trans hfirst.symm) (hsecond'.trans hsecond.symm) ?_
    rw [hopen rfl, hopen' rfl, openLink_peer]
  rw [hboth', hsame]

/-! ## Exchanges that complete -/

/-- Some order of operations leads both sides to their ends. -/
inductive Completes (config : Config) (hello : Bytes) (client : Client.Summary)
    (server : Server.Summary) : Exchange → Prop where
  | ended {exchange : Exchange} (hclient : exchange.client.status = .ended (.ok client))
    (hserver : exchange.server.status = .ended (.ok server)) :
    Completes config hello client server exchange
  | step {before after : Exchange} (h : Steps config hello before after)
    (rest : Completes config hello client server after) :
    Completes config hello client server before

variable {client : Client.Summary} {server : Server.Summary}

/-- Nothing is left to do after both ends. -/
theorem step?_of_ended {exchange : Exchange}
    (hclient : exchange.client.status = .ended (.ok client))
    (hserver : exchange.server.status = .ended (.ok server)) (side : Side) :
    step? config hello side exchange = none := by
  cases side with
  | client => simp only [step?, Party.step?, hclient, Option.map_none]
  | server => simp only [step?, Party.step?, hserver, Option.map_none]

/-- An exchange that completes has not failed. -/
theorem Completes.not_failed {exchange : Exchange}
    (completes : Completes config hello client server exchange) (side : Side) :
    exchange.failed side = false := by
  induction completes with
  | ended hclient hserver =>
    cases side with
    | client => simp only [failed, Party.failed, hclient]
    | server => simp only [failed, Party.failed, hserver]
  | step h rest ih =>
    obtain ⟨side', hstep⟩ := h
    refine Bool.eq_false_iff.2 fun hfailed => ?_
    rw [failed_of_step hstep hfailed] at ih
    cases ih

/-- What can be reached completes if what it leads to does. -/
theorem completes_of_reaches (h : Reaches config hello before after)
    (completes : Completes config hello client server after) :
    Completes config hello client server before := by
  induction h using Relation.ReflTransGen.head_induction_on with
  | refl => exact completes
  | head hstep _ ih => exact .step hstep ih

/-- An exchange that completes leads to an end. -/
theorem Completes.exists_end {exchange : Exchange}
    (completes : Completes config hello client server exchange) :
    ∃ final, Reaches config hello exchange final ∧
      final.client.status = .ended (.ok client) ∧ final.server.status = .ended (.ok server) := by
  induction completes with
  | @ended exchange hclient hserver => exact ⟨exchange, Relation.ReflTransGen.refl, hclient, hserver⟩
  | step h _ ih =>
    obtain ⟨final, hreach, hends⟩ := ih
    exact ⟨final, Relation.ReflTransGen.head h hreach, hends⟩

section

variable {final : Exchange} (hclient : final.client.status = .ended (.ok client))
  (hserver : final.server.status = .ended (.ok server))

include hclient hserver

/-- Whatever is done first, the same end is come to. -/
theorem reaches_end_of_step (hfinal : Reaches config hello before final)
    (sound : Sound config hello before) (h : step? config hello side before = some after) :
    Reaches config hello after final := by
  -- induction on the order that comes to the end: it starts with the same
  -- operation, or with one of the other side, which can come second
  induction hfinal using Relation.ReflTransGen.head_induction_on generalizing after with
  | refl =>
    rw [step?_of_ended hclient hserver side] at h
    cases h
  | @head before first hfirst rest ih =>
    obtain ⟨side', hstep⟩ := hfirst
    have hcompletes := completes_of_reaches rest (.ended hclient hserver)
    have hok := hcompletes.not_failed side'
    rcases side.eq_or_eq_peer side' with rfl | rfl
    · rw [hstep] at h
      obtain rfl := Option.some.inj h
      exact rest
    · obtain ⟨both, hboth, hfailed, hsecond⟩ := step?_peer sound hstep h hok
      have hrest := ih (sound_of_step sound hstep hok) hboth
      have hok' := (completes_of_reaches hrest (.ended hclient hserver)).not_failed side'.peer
      exact Relation.ReflTransGen.head ⟨side', hsecond (hfailed ▸ hok')⟩ hrest

/-- An end that one order comes to is come to from wherever another leads. -/
theorem reaches_end_of_reaches (hfinal : Reaches config hello before final)
    (sound : Sound config hello before) (h : Reaches config hello before after) :
    Reaches config hello after final := by
  have hboth : Reaches config hello after final ∧ Sound config hello after := by
    induction h with
    | refl => exact ⟨hfinal, sound⟩
    | tail _ hstep ih =>
      obtain ⟨side, hstep⟩ := hstep
      have hnext := reaches_end_of_step hclient hserver ih.1 ih.2 hstep
      have hok := (completes_of_reaches hnext (.ended hclient hserver)).not_failed side
      exact ⟨hnext, sound_of_step ih.2 hstep hok⟩
  exact hboth.1

end

/-- An exchange that completes does so from wherever an order leads it. -/
theorem Completes.of_reaches (completes : Completes config hello client server before)
    (sound : Sound config hello before) (h : Reaches config hello before after) :
    Completes config hello client server after := by
  obtain ⟨final, hfinal, hclient, hserver⟩ := completes.exists_end
  exact completes_of_reaches (reaches_end_of_reaches hclient hserver hfinal sound h)
    (.ended hclient hserver)

/-- An exchange that completes is not stuck. -/
theorem Completes.exists_step {exchange : Exchange}
    (completes : Completes config hello client server exchange) :
    (exchange.client.status = .ended (.ok client) ∧
      exchange.server.status = .ended (.ok server)) ∨
    ∃ side after, step? config hello side exchange = some after := by
  cases completes with
  | ended hclient hserver => exact Or.inl ⟨hclient, hserver⟩
  | step h rest =>
    obtain ⟨side, hstep⟩ := h
    exact Or.inr ⟨side, _, hstep⟩

/-- The order in which an exchange is run is one of the orders, and goes on as
long as anything can be done. -/
theorem reaches_run (exchange : Exchange) :
    Reaches config hello exchange (run config hello exchange) ∧
      turn? config hello (run config hello exchange) = none := by
  induction exchange using run.induct config hello with
  | case1 exchange hturn =>
    rw [run]
    split
    next => exact ⟨Relation.ReflTransGen.refl, hturn⟩
    next hturn' => rw [hturn] at hturn'; cases hturn'
  | case2 exchange after hturn ih =>
    rw [run]
    split
    next hturn' => rw [hturn] at hturn'; cases hturn'
    next hturn' =>
      rw [hturn] at hturn'
      obtain rfl := Option.some.inj hturn'
      refine ⟨Relation.ReflTransGen.head ?_ ih.1, ih.2⟩
      unfold turn? at hturn
      split at hturn
      next hstep =>
        rw [hturn] at hstep
        exact ⟨.server, hstep⟩
      next => exact ⟨.client, hturn⟩

end RecordLayer.Exchange
