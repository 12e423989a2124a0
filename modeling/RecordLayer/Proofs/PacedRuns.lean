import Mathlib.Tactic.Common
import RecordLayer.Exchange.Client
import RecordLayer.Exchange.Server
import RecordLayer.KeyAgreement
import RecordLayer.Proofs.Absorbing
import RecordLayer.Proofs.Courses

/-!
# The pace of a run

A run of a script on a wire comes to the same at every pace of the reads.  It is
compared with the run on `Wire.unpaced`, where a read takes all that it asks for,
as far as it is there: each operation there is one or more operations at
any other pace (`Party.exists_reaches_of_unpaced`).

* `Party.run_unpaced` and `Party.agree_run` say so for runs that end or wait.
* `Party.runNow` is a run that fails where it would have to wait.
  `Party.agree_runNow` says the same for it.

`Party.pace_does_not_matter` puts this together with the calls on a pair.
-/

namespace RecordLayer

namespace Wire

variable {wire wire' : Wire}

/-- The wire with reads that take all that they ask for, as far as it is there. -/
def unpaced (wire : Wire) : Wire := wire.hearing wire.incoming {}

theorem unpaced_closedIf (wire : Wire) (closes : Bool) :
    (wire.closedIf closes).unpaced = wire.unpaced.closedIf closes := by
  cases closes <;> rfl

theorem unpaced_leaving (wire : Wire) (unread : Bytes) (reads reads' : Nat) :
    (wire.leaving unread reads).unpaced = wire.unpaced.leaving unread reads' := by
  simp only [unpaced, hearing, leaving, List.drop_nil]

theorem steady_unpaced (wire : Wire) : wire.unpaced.port.Steady :=
  steady_hearing Port.steady_default _ _

theorem Matches.unpaced (h : wire.Matches wire') : wire.unpaced = wire'.unpaced := by
  rw [h.eq_hearing]
  rfl

theorem matches_of_unpaced (steady : wire.port.Steady) (steady' : wire'.port.Steady)
    (h : wire.unpaced = wire'.unpaced) : wire.Matches wire' := by
  have hincoming := congrArg Wire.incoming h
  have houtgoing := congrArg Wire.outgoing h
  have hfault := congrArg (fun wire => wire.port.writeFault) h
  exact ⟨hincoming, houtgoing, hfault, steady, steady'⟩

theorem receive_of_closed (hclosed : wire.incoming.readerClosed = true) (count : Nat) :
    wire.receive count = (.error .badDescriptor, wire) := by
  simp only [receive, hclosed, if_true]

/-- A read with bytes there takes as many as it may. -/
theorem receive_of_ne_nil (hopen : wire.incoming.readerClosed = false) (steady : wire.port.Steady)
    (hqueue : wire.incoming.queue ≠ []) (count : Nat) :
    wire.receive count = (.ok (wire.incoming.queue.take (wire.allowance count)),
      wire.leaving (wire.incoming.queue.drop (wire.allowance count)) 1) := by
  have hempty : wire.incoming.queue.isEmpty = false := by simpa using hqueue
  have hport : { wire.port with readFault := none } = wire.port := by
    rw [← steady.readFault]
  simp only [receive, hopen, steady.readFault, Fault.strike, hempty, Bool.false_and,
    Bool.false_eq_true, if_false, List.splitAt_eq, leaving, List.drop_one, hport]

/-- At no pace, a read with bytes there takes all that it asks for. -/
theorem receive_at_no_pace (hopen : wire.incoming.readerClosed = false)
    (hqueue : wire.incoming.queue ≠ []) (count : Nat) :
    wire.unpaced.receive count = (.ok (wire.incoming.queue.take count),
      wire.unpaced.leaving (wire.incoming.queue.drop count) 1) :=
  @receive_of_ne_nil wire.unpaced hopen wire.steady_unpaced hqueue count

/-- A read takes what it would take at no pace, or only the first bytes of that. -/
theorem receive_unpaced (steady : wire.port.Steady) (count : Nat) :
    (∃ chunk after, wire.receive count = (chunk, after) ∧ after.port.Steady ∧
      wire.unpaced.receive count = (chunk, after.unpaced)) ∨
    ∃ chunk rest, wire.incoming.queue = chunk ++ rest ∧ chunk ≠ [] ∧ rest ≠ [] ∧
      chunk.length < count ∧ wire.incoming.readerClosed = false ∧
      wire.receive count = (.ok chunk, wire.leaving rest 1) := by
  cases hopen : wire.incoming.readerClosed with
  | true =>
    left
    exact ⟨_, _, receive_of_closed hopen count, steady, @receive_of_closed wire.unpaced hopen count⟩
  | false =>
  by_cases hqueue : wire.incoming.queue = []
  · left
    have hreceive := receive_of_empty hopen steady count hqueue
    have hunpaced := @receive_of_empty wire.unpaced hopen wire.steady_unpaced count hqueue
    cases hclosed : wire.incoming.writerClosed with
    | true =>
      rw [hclosed, if_pos rfl] at hreceive
      have hclosed' : wire.unpaced.incoming.writerClosed = true := hclosed
      rw [if_pos hclosed'] at hunpaced
      refine ⟨_, _, hreceive, steady_leaving steady _ _, ?_⟩
      rw [hunpaced, unpaced_leaving]
    | false =>
      rw [hclosed, if_neg Bool.false_ne_true] at hreceive
      have hclosed' : ¬wire.unpaced.incoming.writerClosed = true := by
        rw [show wire.unpaced.incoming.writerClosed = false from hclosed]
        exact Bool.false_ne_true
      rw [if_neg hclosed'] at hunpaced
      exact ⟨_, _, hreceive, steady, hunpaced⟩
  have hreceive := receive_of_ne_nil hopen steady hqueue count
  have hle := allowance_le wire count
  by_cases hall : min count wire.incoming.queue.length ≤ wire.allowance count
  · left
    refine ⟨_, _, hreceive, steady_leaving steady _ _, ?_⟩
    have hsame : min count wire.incoming.queue.length =
        min (wire.allowance count) wire.incoming.queue.length := by omega
    have htake : wire.incoming.queue.take count =
        wire.incoming.queue.take (wire.allowance count) := by
      rw [List.take_eq_take_min, hsame, ← List.take_eq_take_min]
    have hdrop : wire.incoming.queue.drop count =
        wire.incoming.queue.drop (wire.allowance count) := by
      rw [List.drop_eq_drop_min, hsame, ← List.drop_eq_drop_min]
    rw [receive_at_no_pace hopen hqueue, htake, hdrop, unpaced_leaving]
  · right
    have hcount : 0 < count := by omega
    obtain ⟨hpos, -⟩ := allowance_of_steady steady hcount
    refine ⟨_, _, (List.take_append_drop (wire.allowance count) _).symm, ?_, ?_, ?_, rfl, hreceive⟩
    · rw [← List.length_pos_iff, List.length_take]
      omega
    · rw [← List.length_pos_iff, List.length_drop]
      omega
    · rw [List.length_take]
      omega

end Wire

namespace Party

variable {σ ρ : Type} {script : Script σ ρ} {party : Party σ ρ} {wire wire' : Wire}

/-! ## One operation -/

/-- An operation at no pace comes to the same if some of its chunk has been taken in before. -/
theorem steps_unpaced_of_grown {stage : σ} {intake : Intake}
    {next : Delivery → Act Session { s : σ // script.rank s ≤ script.rank stage }}
    (hstatus : party.status = .running stage intake) (hask : script.ask stage = .receive next)
    (hopen : wire.incoming.readerClosed = false) {chunk rest : Bytes}
    (hqueue : wire.incoming.queue = chunk ++ rest) (hlt : chunk.length < intake.missing)
    (hrest : rest ≠ []) (reads : Nat) {after : Party σ ρ × Wire}
    (h : Steps script (party, wire.unpaced) after) :
    Steps script ({ party with status := .running stage (intake.grown chunk) },
      (wire.leaving rest reads).unpaced) after := by
  have hmissing : (intake.grown chunk).missing = intake.missing - chunk.length := rfl
  have hmore : rest.take (intake.grown chunk).missing ≠ [] := by
    have := List.length_pos_iff.2 hrest
    rw [← List.length_pos_iff, List.length_take]
    omega
  have htake : (chunk ++ rest).take intake.missing =
      chunk ++ rest.take (intake.grown chunk).missing := by
    rw [List.take_append, List.take_of_length_le (Nat.le_of_lt hlt), hmissing]
  have hdrop : (chunk ++ rest).drop intake.missing = rest.drop (intake.grown chunk).missing := by
    rw [List.drop_append, List.drop_of_length_le (Nat.le_of_lt hlt), hmissing, List.nil_append]
  have hall : wire.unpaced.receive intake.missing =
      (.ok (chunk ++ rest.take (intake.grown chunk).missing),
        wire.unpaced.leaving (rest.drop (intake.grown chunk).missing) 1) := by
    have hne : wire.incoming.queue ≠ [] := by
      rw [hqueue]
      exact List.append_ne_nil_of_right_ne_nil chunk hrest
    rw [Wire.receive_at_no_pace hopen hne, hqueue, htake, hdrop]
  have hpart : (wire.leaving rest reads).unpaced.receive (intake.grown chunk).missing =
      (.ok (rest.take (intake.grown chunk).missing),
        wire.unpaced.leaving (rest.drop (intake.grown chunk).missing) 1) :=
    @Wire.receive_at_no_pace (wire.leaving rest reads) hopen hrest _
  obtain rfl := Option.some.inj (h.symm.trans (steps_of_chunk hstatus hask (by rintro ⟨⟩) hall))
  rw [← absorbing_grown hlt hmore]
  exact steps_of_chunk rfl hask (by rintro ⟨⟩) hpart

/-- An operation at no pace is made up of operations at any pace. -/
theorem exists_reaches_of_unpaced (steady : wire.port.Steady) {after : Party σ ρ × Wire}
    (h : Steps script (party, wire.unpaced) after) :
    ∃ wire', Reaches script (party, wire) (after.1, wire') ∧ wire'.port.Steady ∧
      wire'.unpaced = after.2 := by
  cases hstatus : party.status with
  | ended result => exact (not_steps_of_ended hstatus h).elim
  | running stage intake =>
  by_cases hask : ∃ next, script.ask stage = .receive next
  case neg =>
    obtain ⟨party', sent, closes, hstep⟩ := exists_step_of_not_receives hstatus
      (fun next hnext => hask ⟨next, hnext⟩) wire
    obtain rfl := Option.some.inj (h.symm.trans (hstep wire.incoming {}))
    refine ⟨_, Relation.ReflTransGen.single (hstep wire.incoming wire.port), ?_, ?_⟩
    · exact Wire.steady_closedIf (Wire.steady_hearing steady _ _) closes
    · exact Wire.unpaced_closedIf _ closes
  obtain ⟨next, hask⟩ := hask
  -- induction on what is there: a read that takes too little leaves less of it
  induction hn : wire.incoming.queue.length using Nat.strongRecOn
    generalizing party intake wire with
  | ind n ih =>
  subst hn
  rcases Wire.receive_unpaced steady intake.missing with
    ⟨chunk, left, hreceive, hsteady, hunpaced⟩ | ⟨chunk, rest, hqueue, hne, hrest, hlt, hopen, hreceive⟩
  · have hchunk := chunk_ne_of_steps hstatus hask hunpaced h
    obtain ⟨party', closes, hstep⟩ := exists_step_of_chunk hstatus hask hchunk
    obtain rfl := Option.some.inj (h.symm.trans (hstep _ _ hunpaced))
    refine ⟨_, Relation.ReflTransGen.single (hstep _ _ hreceive), ?_, ?_⟩
    · exact Wire.steady_closedIf hsteady closes
    · exact Wire.unpaced_closedIf _ closes
  · have hstep := steps_of_chunk hstatus hask (by rintro ⟨⟩) hreceive
    rw [absorbing_of_lt hne hlt] at hstep
    have hlater := steps_unpaced_of_grown hstatus hask hopen hqueue hlt hrest 1 h
    have hleft : rest.length < wire.incoming.queue.length := by
      have := List.length_pos_iff.2 hne
      rw [hqueue, List.length_append]
      omega
    obtain ⟨wire', hreach, hsteady, hafter⟩ :=
      ih _ hleft (Wire.steady_leaving steady _ 1) hlater _ rfl rfl
    exact ⟨wire', Relation.ReflTransGen.head hstep hreach, hsteady, hafter⟩

/-- Whether a party has to wait is not a matter of pace. -/
theorem waits_unpaced (steady : wire.port.Steady) (stage : σ) (intake : Intake) :
    waits script stage intake wire.unpaced = waits script stage intake wire := by
  cases hask : script.ask stage with
  | send type data next => simp only [waits, hask]
  | finish result => simp only [waits, hask]
  | receive next =>
    rcases Wire.receive_unpaced steady intake.missing with
      ⟨chunk, left, hreceive, -, hunpaced⟩ | ⟨chunk, rest, hqueue, -, hrest, -, hopen, hreceive⟩
    · simp only [waits, hask, hreceive, hunpaced]
    · have hthere : wire.incoming.queue ≠ [] := by
        rw [hqueue]
        exact List.append_ne_nil_of_right_ne_nil chunk hrest
      simp only [waits, hask, hreceive, Wire.receive_at_no_pace hopen hthere]

/-- Where a party that has not ended does nothing, it has nothing to read, and more may come. -/
theorem receive_of_none {stage : σ} {intake : Intake}
    (hstatus : party.status = .running stage intake) (steady : wire.port.Steady)
    (h : step? script party wire = none) :
    (∃ next, script.ask stage = .receive next) ∧ wire.incoming.writerClosed = false ∧
      wire.receive intake.missing = (.error .wouldBlock, wire) := by
  have hwaits : waits script stage intake wire = true := by
    simp only [step?, hstatus] at h
    split at h
    next hwaits => exact hwaits
    next => cases h
  cases hask : script.ask stage with
  | send type data next => simp only [waits, hask, Bool.false_eq_true] at hwaits
  | finish result => simp only [waits, hask, Bool.false_eq_true] at hwaits
  | receive next =>
  cases hopen : wire.incoming.readerClosed with
  | true =>
    simp only [waits, hask, Wire.receive_of_closed hopen, Bool.false_eq_true] at hwaits
  | false =>
    obtain ⟨hqueue, hclosed⟩ := (waits_iff hask intake hopen steady).1 hwaits
    have hreceive := Wire.receive_of_empty hopen steady intake.missing hqueue
    rw [hclosed, if_neg Bool.false_ne_true] at hreceive
    exact ⟨⟨next, rfl⟩, hclosed, hreceive⟩

/-! ## Whole runs -/

theorem run_of_some {party' : Party σ ρ} (h : step? script party wire = some (party', wire')) :
    run script party wire = run script party' wire' :=
  @run_eq_of_step σ ρ script (party, wire) (party', wire') h

/-- A run is made up of operations. -/
theorem reaches_run (script : Script σ ρ) (party : Party σ ρ) (wire : Wire) :
    Reaches script (party, wire) (run script party wire) := by
  induction party, wire using run.induct script with
  | case1 party wire hnone =>
    rw [run_of_none hnone]
    exact Relation.ReflTransGen.refl
  | case2 party wire party' wire' hstep ih =>
    rw [run_of_some hstep]
    exact Relation.ReflTransGen.head hstep ih

/-- A run that does not end has to wait for a read. -/
theorem step?_run_eq_none (script : Script σ ρ) (party : Party σ ρ) (wire : Wire) :
    step? script (run script party wire).1 (run script party wire).2 = none := by
  induction party, wire using run.induct script with
  | case1 party wire hnone =>
    rw [run_of_none hnone]
    exact hnone
  | case2 party wire party' wire' hstep ih =>
    rw [run_of_some hstep]
    exact ih

/-- A party does nothing at one pace where it does nothing at no pace. -/
theorem step?_eq_none_of_unpaced (steady : wire.port.Steady)
    (h : step? script party wire.unpaced = none) : step? script party wire = none := by
  cases hstatus : party.status with
  | ended result => simp only [step?, hstatus]
  | running stage intake =>
    simp only [step?, hstatus, waits_unpaced steady] at h ⊢
    split at h
    next hwaits => rw [if_pos hwaits]
    next => cases h

/-- A run comes to the same as at no pace. -/
theorem run_unpaced (script : Script σ ρ) (party : Party σ ρ) (steady : wire.port.Steady) :
    (run script party wire).1 = (run script party wire.unpaced).1 ∧
      (run script party wire).2.port.Steady ∧
      (run script party wire).2.unpaced = (run script party wire.unpaced).2 := by
  generalize hunpaced : wire.unpaced = unpaced
  induction party, unpaced using run.induct script generalizing wire with
  | case1 party unpaced hnone =>
    subst hunpaced
    rw [run_of_none hnone, run_of_none (step?_eq_none_of_unpaced steady hnone)]
    exact ⟨rfl, steady, rfl⟩
  | case2 party unpaced party' unpaced' hstep ih =>
    subst hunpaced
    obtain ⟨wire', hreach, hsteady, hafter⟩ := exists_reaches_of_unpaced steady hstep
    have hrun : run script party wire = run script party' wire' := run_eq_of_reaches hreach
    have hrun' := run_of_some hstep
    rw [hrun, hrun']
    exact ih hsteady hafter

/-- A run of which no read waits: one that would have to fails. -/
def runNow (script : Script σ ρ) (party : Party σ ρ) (wire : Wire) : Party σ ρ × Wire :=
  match run script party wire with
  | (party', wire') =>
    match party'.status with
    | .ended _ => (party', wire')
    | .running stage intake =>
      settle script party' (advance script stage intake { toSession := party'.session, wire := wire' })

/-- Parties that tell the same, with wires that match. -/
structure Agree (after after' : Party σ ρ × Wire) : Prop where
  party : after.1 = after'.1
  wire : after.2.Matches after'.2

/-- Runs on wires that match come to the same. -/
theorem agree_run (script : Script σ ρ) (party : Party σ ρ) (h : wire.Matches wire') :
    Agree (run script party wire) (run script party wire') := by
  obtain ⟨hparty, hsteady, hwire⟩ := run_unpaced script party h.steady
  obtain ⟨hparty', hsteady', hwire'⟩ := run_unpaced script party h.steady'
  rw [← h.unpaced] at hparty' hwire'
  exact ⟨hparty.trans hparty'.symm,
    Wire.matches_of_unpaced hsteady hsteady' (hwire.trans hwire'.symm)⟩

/-- So do runs of which no read waits. -/
theorem agree_runNow (script : Script σ ρ) (party : Party σ ρ) (h : wire.Matches wire') :
    Agree (runNow script party wire) (runNow script party wire') := by
  have hagree := agree_run script party h
  have hnone := step?_run_eq_none script party wire
  have hnone' := step?_run_eq_none script party wire'
  unfold runNow
  generalize run script party wire = after at hagree hnone ⊢
  generalize run script party wire' = after' at hagree hnone' ⊢
  obtain ⟨party, wire⟩ := after
  obtain ⟨party', wire'⟩ := after'
  obtain ⟨hparty, hwire⟩ := hagree
  obtain rfl : party = party' := hparty
  dsimp only
  cases hstatus : party.status with
  | ended result => exact ⟨rfl, hwire⟩
  | running stage intake =>
    obtain ⟨⟨next, hask⟩, -, hreceive⟩ := receive_of_none hstatus hwire.steady hnone
    obtain ⟨-, -, hreceive'⟩ := receive_of_none hstatus hwire.steady' hnone'
    obtain ⟨failed, closes, hsettle⟩ := exists_settle_onSession script party
      (absorb script stage next intake (.error .wouldBlock)) party.session
    dsimp only
    rw [advance_of_receive hask, advance_of_receive hask, hreceive, hreceive', hsettle, hsettle]
    exact ⟨rfl, hwire.closedIf closes⟩

/-! ## The pace does not matter -/

/-- However many bytes each read takes, at least one where there are any: calls on the two sides
of a pair give the same replies and leave the same behind, and so do whole runs of the client's
script and of the server's, whether they may wait for more or fail where they would have to. -/
theorem pace_does_not_matter :
    (∀ (pair pair' : Pair), pair.Matches pair' →
      ∀ calls : List (Side × Pair.Call), (∀ entry ∈ calls, entry.2.KeepsSteady) →
        (pair.events calls).map Pair.Event.reply = (pair'.events calls).map Pair.Event.reply ∧
          (pair.after calls).Matches (pair'.after calls)) ∧
    ∀ wire wire' : Wire, wire.Matches wire' →
      (∀ config party,
        Agree (run (Client.script config) party wire) (run (Client.script config) party wire') ∧
          Agree (runNow (Client.script config) party wire)
            (runNow (Client.script config) party wire')) ∧
      ∀ config party,
        Agree (run (Server.script config) party wire) (run (Server.script config) party wire') ∧
          Agree (runNow (Server.script config) party wire)
            (runNow (Server.script config) party wire') := by
  refine ⟨fun pair pair' h calls hcalls => Pair.replies_of_matches h hcalls,
    fun wire wire' h => ⟨fun config party => ?_, fun config party => ?_⟩⟩
  · exact ⟨agree_run _ party h, agree_runNow _ party h⟩
  · exact ⟨agree_run _ party h, agree_runNow _ party h⟩

/-- Early data, and then half a record of which the rest is still to come: in single bytes, or in
three bytes and then all that is there. -/
theorem pace_does_not_matter_of_half_a_record :
    let incoming : Channel := { queue := [65, 1, 0, 0, 0, 0, 0, 0, 72, 2, 0, 0, 0, 0, 0, 2, 9] }
    let pair (port : Port) : Pair :=
      { client := { side := .client }, server := { side := .server }
        link := { toClient := incoming, toServer := incoming, clientPort := port, serverPort := port } }
    let slow := pair { limit := some 1 }
    let fast := pair { pieces := [3] }
    let calls : List (Side × Pair.Call) :=
      [(.server, .skip true), (.server, .setLevel .read (.number 2)), (.server, .read)]
    let client : Client.Config :=
      { agreement := x25519, privateKey := List.replicate 32 1, hello := [1], earlyData := 1 }
    let server : Server.Config :=
      { agreement := x25519, privateKey := List.replicate 32 2, random := List.replicate 32 3
        earlyData := 0, rejectEarlyData := false }
    slow.Matches fast ∧ (∀ entry ∈ calls, entry.2.KeepsSteady) ∧
      (slow.events calls).map Pair.Event.reply = (fast.events calls).map Pair.Event.reply ∧
      (slow.after calls).Matches (fast.after calls) ∧
      (∃ party, Client.start { side := .client } {} 0x1301 = .ok party ∧
        Agree (runNow (Client.script client) party (slow.link.wire .client))
          (runNow (Client.script client) party (fast.link.wire .client))) ∧
      ∃ party, Server.start { side := .server } {} 0x1301 = .ok party ∧
        Agree (runNow (Server.script server) party (slow.link.wire .server))
          (runNow (Server.script server) party (fast.link.wire .server)) := by
  intro incoming pair slow fast calls client server
  have hslow : Port.Steady { limit := some 1 } := ⟨rfl, by decide, by decide⟩
  have hfast : Port.Steady { pieces := [3] } := ⟨rfl, by decide, by decide⟩
  have hmatches : slow.Matches fast := by
    refine ⟨rfl, rfl, rfl, fun side => ?_⟩
    cases side with
    | client => exact ⟨rfl, rfl, rfl, hslow, hfast⟩
    | server => exact ⟨rfl, rfl, rfl, hslow, hfast⟩
  have hcalls : ∀ entry ∈ calls, entry.2.KeepsSteady := by
    simp [calls, Pair.Call.KeepsSteady]
  obtain ⟨hpairs, hruns⟩ := pace_does_not_matter
  obtain ⟨hreplies, hafter⟩ := hpairs slow fast hmatches calls hcalls
  obtain ⟨hclient, -⟩ := hruns _ _ (hmatches.wire .client)
  obtain ⟨-, hserver⟩ := hruns _ _ (hmatches.wire .server)
  exact ⟨hmatches, hcalls, hreplies, hafter, ⟨_, rfl, (hclient client _).2⟩,
    ⟨_, rfl, (hserver server _).2⟩⟩

end Party

end RecordLayer
