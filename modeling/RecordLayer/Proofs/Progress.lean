import Mathlib.Tactic.Common
import RecordLayer.Proofs.Courses
import RecordLayer.Proofs.Places
import RecordLayer.Proofs.Respecting

/-!
# Progress of a run

What writing and reading records and closing an end respect, every operation
of a party does (`Party.along_of_step`).  So it only reads on and sends more
whole records (`Party.advances_of_reaches`).  There is one way for a run to go
(`Party.reaches_or_reaches`).  So what has been sent by some point of a run is
the beginning of what has been sent at any later point
(`Party.exists_prefix_of_reaches`), and a point is known by what comes before it.
-/

namespace RecordLayer

/-! ## Beginnings of a stream -/

/-- Records at the beginning of a stream have the bytes of its first records. -/
theorem Record.exists_prefix_of_stream {records all : List Record} {more : Bytes}
    (fits : ∀ record ∈ records, record.Fits) (hall : ∀ record ∈ all, record.Fits)
    (h : stream records ++ more = stream all) :
    ∃ first, first <+: all ∧ stream records = stream first := by
  induction records generalizing all with
  | nil => exact ⟨[], List.nil_prefix, rfl⟩
  | cons record records ih =>
    rw [stream_cons, List.append_assoc] at h
    cases all with
    | nil =>
      have hlength := congrArg List.length h
      rw [List.length_append, length_bytes] at hlength
      simp only [stream_nil, List.length_nil] at hlength
      omega
    | cons record' all =>
      have hfront := Front.of_bytes_append (fits record List.mem_cons_self) (stream records ++ more)
      rw [h, stream_cons, Front.of_bytes_append (hall record' List.mem_cons_self)] at hfront
      have hrest := (Front.whole.inj hfront).2.2.symm
      obtain ⟨first, hfirst, hstream⟩ := ih
        (fun r hr => fits r (List.mem_cons_of_mem _ hr))
        (fun r hr => hall r (List.mem_cons_of_mem _ hr)) hrest
      refine ⟨record' :: first, List.cons_prefix_cons.2 ⟨rfl, hfirst⟩, ?_⟩
      rw [stream_cons, hrest] at h
      rw [stream_cons, stream_cons, hstream, List.append_cancel_right h]

/-! ## What a wire goes through -/

/-- Some bytes have been read off a wire, and whole records sent on it. -/
structure Wire.Advances (before after : Wire) : Prop where
  unread : after.incoming.queue <:+ before.incoming.queue
  sent : ∃ records : List Record, (∀ record ∈ records, record.Fits) ∧
    after.outgoing.queue = before.outgoing.queue ++ Record.stream records

namespace Wire

variable {first second third : Wire}

theorem Advances.refl (wire : Wire) : wire.Advances wire where
  unread := List.suffix_refl _
  sent := ⟨[], by simp, (List.append_nil _).symm⟩

theorem Advances.trans (h : first.Advances second) (h' : second.Advances third) :
    first.Advances third where
  unread := h'.unread.trans h.unread
  sent := by
    obtain ⟨records, fits, hsent⟩ := h.sent
    obtain ⟨records', fits', hsent'⟩ := h'.sent
    refine ⟨records ++ records', ?_, ?_⟩
    · intro record hrecord
      rcases List.mem_append.1 hrecord with hmem | hmem
      · exact fits record hmem
      · exact fits' record hmem
    · rw [hsent', hsent, Record.stream_append, List.append_assoc]

/-- Closing an end leaves all bytes where they are. -/
theorem Advances.close (h : first.Advances second) : first.Advances second.close :=
  ⟨h.unread, h.sent⟩

/-- A read takes bytes off the front, or none. -/
theorem advances_receive (wire : Wire) (count : Nat) : wire.Advances (wire.receive count).2 where
  unread := by
    cases hreceive : wire.receive count with
    | mk result wire' =>
      cases result with
      | error e => exact ⟨[], queue_receive_of_error hreceive⟩
      | ok chunk =>
        rw [← receive_queue hreceive]
        exact List.suffix_append _ _
  sent := ⟨[], by simp, by rw [outgoing_receive, Record.stream_nil, List.append_nil]⟩

end Wire

namespace Connection

/-- A write sends a whole record, or nothing. -/
theorem advances_writeRecord (type : Code) (data : Bytes) (connection : Connection) :
    connection.wire.Advances (writeRecord type data connection).state.wire := by
  have hsends := sends_writeRecord type data connection
  generalize writeRecord type data connection = outcome at hsends ⊢
  have hunread {bytes : Bytes} {result : Except StreamError Unit} {wire : Wire}
      (h : connection.wire.send bytes = (result, wire)) :
      wire.incoming.queue <:+ connection.wire.incoming.queue := by
    have hincoming := Wire.incoming_send connection.wire bytes
    rw [h] at hincoming
    exact ⟨[], congrArg Channel.queue hincoming⟩
  cases hsends with
  | refused cause => exact Wire.Advances.refl _
  | failed hsend =>
    refine ⟨hunread hsend, [], by simp, ?_⟩
    show Channel.queue _ = _
    rw [Wire.outgoing_send_of_error hsend, Record.stream_nil, List.append_nil]
  | @sent sendable wire htype fits hsend =>
    refine ⟨hunread hsend, [connection.transport.write.stamp sendable data],
      List.forall_mem_singleton.2 fits, ?_⟩
    show wire.outgoing.queue = _
    rw [Wire.outgoing_send_of_ok hsend, Record.stream_cons, Record.stream_nil, List.append_nil]

/-- A read sends nothing. -/
theorem advances_receive (intake : Intake) (connection : Connection) :
    connection.wire.Advances (receive intake connection).state.wire := by
  have hwire : (receive intake connection).state.wire =
      (connection.wire.receive intake.missing).2 := by
    rw [receive]
    rfl
  rw [hwire]
  exact Wire.advances_receive connection.wire intake.missing

end Connection

/-! ## What all operations respect -/

/-- A relation between wires that writing and reading records and closing an
end respect. -/
structure Wire.Lasting (R : Wire → Wire → Prop) : Prop where
  refl : ∀ wire, R wire wire
  trans : ∀ {first second third}, R first second → R second third → R first third
  writes : ∀ type data (connection : Connection),
    R connection.wire (Connection.writeRecord type data connection).state.wire
  reads : ∀ intake (connection : Connection),
    R connection.wire (Connection.receive intake connection).state.wire
  closes : ∀ {first second}, R first second → R first second.close

/-- Every operation reads on, or sends a whole record. -/
theorem Wire.lasting_advances : Lasting Advances where
  refl := Advances.refl
  trans := Advances.trans
  writes := Connection.advances_writeRecord
  reads := Connection.advances_receive
  closes := Advances.close

/-- A party respects what goes on between wires, whatever it does with its session. -/
theorem Wire.Lasting.respects {σ ρ : Type} {R : Wire → Wire → Prop} (lasting : Lasting R)
    (script : Script σ ρ) : script.Respects fun before after _ => R before.wire after.wire where
  composes := ⟨fun seat => lasting.refl seat.wire, lasting.trans⟩
  writes type data seat := lasting.writes type data seat.connection
  reads intake seat := lasting.reads intake seat.connection
  next stage := by
    cases script.ask stage with
    | send type data next => exact fun seat => lasting.refl seat.wire
    | receive next => exact fun delivery seat => lasting.refl seat.wire
    | finish result => exact trivial
  closes := lasting.closes

namespace Party

variable {σ ρ : Type} {script : Script σ ρ} {R : Wire → Wire → Prop}

/-- An operation goes along what all operations respect. -/
theorem along_of_step (lasting : Wire.Lasting R) {before after : Party σ ρ × Wire}
    (h : Steps script before after) : R before.2 after.2 := by
  obtain ⟨notes, -, halong⟩ := exists_notes_of_step (lasting.respects script) h
  exact halong

/-! ## Whole runs -/

variable {start point point' : Party σ ρ × Wire}

theorem advances_of_reaches (h : Reaches script start point) : start.2.Advances point.2 := by
  obtain ⟨notes, -, hadvances⟩ := exists_notes_of_reaches (Wire.lasting_advances.respects script) h
  exact hadvances

/-- Of two points of a run one comes before the other. -/
theorem reaches_or_reaches (h : Reaches script start point) (h' : Reaches script start point') :
    Reaches script point point' ∨ Reaches script point' point := by
  refine Relation.ReflTransGen.total_of_right_unique ?_ h h'
  intro before after after' hstep hstep'
  exact Option.some.inj (hstep.symm.trans hstep')

/-- Every point of a run comes before its end. -/
theorem reaches_of_ended (h : Reaches script start point) (h' : Reaches script start point')
    {result : Result ρ} (hend : point'.1.status = .ended result) : Reaches script point point' := by
  rcases reaches_or_reaches h h' with hbefore | hafter
  · exact hbefore
  · rcases Relation.ReflTransGen.cases_head hafter with rfl | ⟨next, hstep, -⟩
    · exact Relation.ReflTransGen.refl
    · exact (not_steps_of_ended hend hstep).elim

/-- What has been sent by some point of a run is the beginning of what has been
sent by a later one. -/
theorem exists_prefix_of_reaches (hstart : start.2.outgoing.queue = [])
    (h : Reaches script start point) (h' : Reaches script point point') {all : List Record}
    (fits : ∀ record ∈ all, record.Fits) (hsent : point'.2.outgoing.queue = Record.stream all) :
    ∃ sent, sent <+: all ∧ point.2.outgoing.queue = Record.stream sent := by
  obtain ⟨records, hfits, hqueue⟩ := (advances_of_reaches h).sent
  obtain ⟨more, -, hmore⟩ := (advances_of_reaches h').sent
  rw [hstart, List.nil_append] at hqueue
  rw [hsent, hqueue] at hmore
  obtain ⟨sent, hinitial, hstream⟩ := Record.exists_prefix_of_stream hfits fits hmore.symm
  exact ⟨sent, hinitial, hqueue.trans hstream⟩

/-! ## Runs between places -/

variable {final : Bool} {place mark : Place σ} {party : Party σ ρ} {wire : Wire}

/-- A run comes to the end that its party comes to. -/
theorem run_of_ends (stands : Stands script final place party wire) {sent : Bytes}
    (h : Ends script final place sent) :
    Reaches script (party, wire) (run script party wire) ∧
      (∃ result, (run script party wire).1.status = .ended result) ∧
      (run script party wire).2.outgoing.queue = sent := by
  obtain ⟨party', wire', result, hreach, hstatus, hsent⟩ := h party wire stands
  have hrun : run script party wire = (party', wire') :=
    (run_eq_of_reaches hreach).trans (run_of_ended hstatus)
  rw [hrun]
  exact ⟨hreach, ⟨result, hstatus⟩, hsent⟩

/-- At every point of a run no more has been sent than at its end. -/
theorem exists_prefix_of_ends (stands : Stands script final place party wire)
    (hstart : place.sent = []) {all : List Record} (fits : ∀ record ∈ all, record.Fits)
    (hends : Ends script final place (Record.stream all)) (h : Reaches script (party, wire) point) :
    ∃ sent, sent <+: all ∧ point.2.outgoing.queue = Record.stream sent := by
  have hempty : wire.outgoing.queue = [] :=
    (congrArg Channel.queue stands.wire.outgoing).trans hstart
  obtain ⟨party', wire', result, hreach, hstatus, hsent⟩ := hends party wire stands
  exact exists_prefix_of_reaches hempty h (reaches_of_ended h hreach hstatus) fits hsent

/-- At a point before a mark of a run no more has been sent than at the mark.
At a point behind it all has been read that was read there. -/
theorem before_or_behind (stands : Stands script final place party wire) (hstart : place.sent = [])
    {first all : List Record} (hgoes : Goes script final place mark)
    (hmark : mark.sent = Record.stream first) (hfirst : ∀ record ∈ first, record.Fits)
    (hends : Ends script final mark (Record.stream all)) (hall : ∀ record ∈ all, record.Fits)
    (h : Reaches script (party, wire) point) :
    (∃ sent, sent <+: first ∧ point.2.outgoing.queue = Record.stream sent) ∨
      point.2.incoming.queue <:+ mark.unread ∧
        ∃ sent, sent <+: all ∧ point.2.outgoing.queue = Record.stream sent := by
  have hempty : wire.outgoing.queue = [] :=
    (congrArg Channel.queue stands.wire.outgoing).trans hstart
  obtain ⟨party₁, wire₁, hreach, stands'⟩ := hgoes party wire stands
  obtain ⟨party₂, wire₂, result, hreach', hstatus, hsent⟩ := hends party₁ wire₁ stands'
  rcases reaches_or_reaches h hreach with hbefore | hbehind
  · left
    have hthere : wire₁.outgoing.queue = Record.stream first :=
      (congrArg Channel.queue stands'.wire.outgoing).trans hmark
    exact exists_prefix_of_reaches hempty h hbefore hfirst hthere
  · right
    have hunread : wire₁.incoming.queue = mark.unread :=
      congrArg Channel.queue stands'.wire.incoming
    rw [← hunread]
    refine ⟨(advances_of_reaches hbehind).unread, ?_⟩
    have hlater := reaches_of_ended h (Relation.ReflTransGen.trans hreach hreach') hstatus
    exact exists_prefix_of_reaches hempty h hlater hall hsent

end Party

end RecordLayer
