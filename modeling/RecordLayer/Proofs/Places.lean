import Mathlib.Tactic.Common
import RecordLayer.Proofs.Leading
import RecordLayer.Proofs.Turns

/-!
# Places

A place is where a party stands with everything that decides how it goes on:
its stage, the view of its session, and the bytes in the two channels of its
wire.

`Party.Goes` leads from one place to another by operations of the party alone,
`Party.Stops` to a failure, and `Party.Ends` to an end of either kind; the last
two say what has been sent by then.  A turn that sends goes on (`goes_send`) or
stops, before the record is sent (`stops_send`) or after it
(`stops_send_next`).  A turn that receives goes on behind the next record of
the read epoch (`goes_receive`) or stops, since there is none
(`stops_of_nothing`) or since the action on it fails (`stops_next`).
-/

namespace RecordLayer

/-! ## Wires -/

/-- A wire whose both ends may be used, with bytes in its two channels.  With
`final` set, the peer sends nothing more. -/
structure Wire.Holds (wire : Wire) (final : Bool) (unread sent : Bytes) : Prop where
  incoming : wire.incoming = { queue := unread, writerClosed := final }
  outgoing : wire.outgoing = { queue := sent }
  steady : wire.port.Steady
  writeFault : wire.port.writeFault = none

namespace Wire

variable {wire : Wire} {final : Bool} {unread sent : Bytes}

theorem Holds.accepts (h : wire.Holds final unread sent) : wire.Accepts := by
  refine ⟨?_, ?_, h.writeFault⟩
  · rw [h.outgoing]
  · rw [h.outgoing]

theorem Holds.sending (h : wire.Holds final unread sent) (bytes : Bytes) :
    (wire.sending bytes).Holds final unread (sent ++ bytes) := by
  refine ⟨h.incoming, ?_, h.steady, h.writeFault⟩
  rw [Wire.sending, h.outgoing]

theorem Holds.leaving (h : wire.Holds final unread sent) (rest : Bytes) (reads : Nat) :
    (wire.leaving rest reads).Holds final rest sent := by
  refine ⟨?_, h.outgoing, steady_leaving h.steady rest reads, h.writeFault⟩
  rw [Wire.leaving, h.incoming]

/-- A failure leaves the bytes that were sent, and both channels closed or open. -/
theorem Holds.failed (h : wire.Holds final unread sent) (closes : Bool) :
    let wire' := if closes then wire.close else wire
    wire'.outgoing.queue = sent ∧ wire'.incoming.readerClosed = closes ∧
      wire'.outgoing.writerClosed = closes := by
  cases closes with
  | true => exact ⟨congrArg Channel.queue h.outgoing, rfl, rfl⟩
  | false =>
    exact ⟨congrArg Channel.queue h.outgoing, congrArg Channel.readerClosed h.incoming,
      congrArg Channel.writerClosed h.outgoing⟩

end Wire

/-! ## Deliveries -/

/-- Bytes hold a record of the read epoch with some data, behind early data
that is dropped, and `rest` behind it. -/
structure Session.View.Receives (view : Session.View) (dropped : List Record) (delivery : Delivery)
    (bytes rest : Bytes) : Prop where
  early : ∀ record ∈ dropped, record.Fits ∧ record.level = 1
  skips : dropped ≠ [] → view.skipping = true ∧ view.read.level ≠ 1
  leads : ∃ later, bytes = Record.stream dropped ++ later ∧
    (view.read.stamp delivery.type delivery.data).Leads later rest

namespace Session.View

variable {view : Session.View} {bytes rest : Bytes}

/-- The view after a record was delivered behind a number of others. -/
def delivered (view : Session.View) (count : Nat) : Session.View :=
  { view with skipping := false, skipped := view.skipped + count }

/-- Nothing changes where nothing is skipped. -/
theorem delivered_zero (hskipping : view.skipping = false) : view.delivered 0 = view := by
  rw [delivered, ← hskipping]
  rfl

/-- A record in front is received. -/
theorem receives_of_leads {type : RecordType} {data : Bytes}
    (h : (view.read.stamp type data).Leads bytes rest) :
    view.Receives [] { type, data } bytes rest where
  early := by simp
  skips := by simp
  leads := ⟨bytes, rfl, h⟩

/-- Where nothing is skipped the record received is in front. -/
theorem Receives.leads_of_not_skipping {dropped : List Record} {delivery : Delivery}
    (h : view.Receives dropped delivery bytes rest) (hskipping : view.skipping = false) :
    (view.read.stamp delivery.type delivery.data).Leads bytes rest := by
  obtain ⟨later, hbytes, hleads⟩ := h.leads
  cases dropped with
  | nil => exact hbytes ▸ hleads
  | cons record dropped =>
    rw [(h.skips (List.cons_ne_nil _ _)).1] at hskipping
    cases hskipping

end Session.View

/-! ## Places -/

namespace Party

variable {σ ρ : Type}

/-- Where a party stands. -/
structure Place (σ : Type) where
  stage : σ
  view : Session.View
  unread : Bytes
  sent : Bytes

/-- A party on its wire stands at a place. -/
structure Stands (script : Script σ ρ) (final : Bool) (place : Place σ) (party : Party σ ρ)
    (wire : Wire) : Prop where
  status : party.status = enter script place.stage
  shown : party.session.Shows place.view
  wire : wire.Holds final place.unread place.sent

/-- From one place a party comes to another. -/
def Goes (script : Script σ ρ) (final : Bool) (before after : Place σ) : Prop :=
  ∀ party wire, Stands script final before party wire →
    ∃ party' wire', Reaches script (party, wire) (party', wire') ∧
      Stands script final after party' wire'

/-- From a place a party comes to a failure, and closes its end if the script
does that. -/
def Fails (script : Script σ ρ) (final : Bool) (before : Place σ) : Prop :=
  ∀ party wire, Stands script final before party wire →
    ∃ party' wire' e, Reaches script (party, wire) (party', wire') ∧
      party'.status = .ended (.error e) ∧
      (script.closesOnFailure = true →
        wire'.incoming.readerClosed = true ∧ wire'.outgoing.writerClosed = true)

/-- From a place a party comes to a failure.  By then it has sent all of `sent`, and it closes its
end if the script does that. -/
def Stops (script : Script σ ρ) (final : Bool) (before : Place σ) (sent : Bytes) : Prop :=
  ∀ party wire, Stands script final before party wire →
    ∃ party' wire' e, Reaches script (party, wire) (party', wire') ∧
      party'.status = .ended (.error e) ∧ wire'.outgoing.queue = sent ∧
      wire'.incoming.readerClosed = script.closesOnFailure ∧
      wire'.outgoing.writerClosed = script.closesOnFailure

/-- From a place a party comes to its end, with a failure or without.  By then it has sent all of
`sent`. -/
def Ends (script : Script σ ρ) (final : Bool) (before : Place σ) (sent : Bytes) : Prop :=
  ∀ party wire, Stands script final before party wire →
    ∃ party' wire' result, Reaches script (party, wire) (party', wire') ∧
      party'.status = .ended result ∧ wire'.outgoing.queue = sent

variable {script : Script σ ρ} {final : Bool}

theorem Stops.fails {place : Place σ} {sent : Bytes} (h : Stops script final place sent) :
    Fails script final place := by
  intro party wire stands
  obtain ⟨party', wire', e, hreach, hstatus, -, hreader, hwriter⟩ := h party wire stands
  exact ⟨party', wire', e, hreach, hstatus, fun hcloses => ⟨hreader.trans hcloses, hwriter.trans hcloses⟩⟩

theorem Stops.ends {place : Place σ} {sent : Bytes} (h : Stops script final place sent) :
    Ends script final place sent := by
  intro party wire stands
  obtain ⟨party', wire', e, hreach, hstatus, hsent, -⟩ := h party wire stands
  exact ⟨party', wire', .error e, hreach, hstatus, hsent⟩

/-- A place behind which the script is finished is an end. -/
theorem ends_of_enter {place : Place σ} {result : Result ρ}
    (h : enter script place.stage = .ended result) : Ends script final place place.sent :=
  fun party wire stands => ⟨party, wire, result, Relation.ReflTransGen.refl, stands.status.trans h,
    congrArg Channel.queue stands.wire.outgoing⟩

theorem Goes.trans {first second third : Place σ} (h : Goes script final first second)
    (h' : Goes script final second third) : Goes script final first third := by
  intro party wire stands
  obtain ⟨party₁, wire₁, hreach₁, stands₁⟩ := h party wire stands
  obtain ⟨party₂, wire₂, hreach₂, stands₂⟩ := h' party₁ wire₁ stands₁
  exact ⟨party₂, wire₂, Relation.ReflTransGen.trans hreach₁ hreach₂, stands₂⟩

theorem Goes.fails {first second : Place σ} (h : Goes script final first second)
    (h' : Fails script final second) : Fails script final first := by
  intro party wire stands
  obtain ⟨party₁, wire₁, hreach₁, stands₁⟩ := h party wire stands
  obtain ⟨party₂, wire₂, e, hreach₂, hend⟩ := h' party₁ wire₁ stands₁
  exact ⟨party₂, wire₂, e, Relation.ReflTransGen.trans hreach₁ hreach₂, hend⟩

theorem Goes.stops {first second : Place σ} {sent : Bytes} (h : Goes script final first second)
    (h' : Stops script final second sent) : Stops script final first sent := by
  intro party wire stands
  obtain ⟨party₁, wire₁, hreach₁, stands₁⟩ := h party wire stands
  obtain ⟨party₂, wire₂, e, hreach₂, hend⟩ := h' party₁ wire₁ stands₁
  exact ⟨party₂, wire₂, e, Relation.ReflTransGen.trans hreach₁ hreach₂, hend⟩

theorem Goes.ends {first second : Place σ} {sent : Bytes} (h : Goes script final first second)
    (h' : Ends script final second sent) : Ends script final first sent := by
  intro party wire stands
  obtain ⟨party₁, wire₁, hreach₁, stands₁⟩ := h party wire stands
  obtain ⟨party₂, wire₂, result, hreach₂, hend⟩ := h' party₁ wire₁ stands₁
  exact ⟨party₂, wire₂, result, Relation.ReflTransGen.trans hreach₁ hreach₂, hend⟩

/-! ## The end of a turn -/

/-- Notes of an operation are added to those of the party. -/
theorem settle_prepend (party : Party σ ρ) (outcome : Outcome Seat (Status σ ρ))
    (notes : List Note) :
    settle script party { outcome with notes := notes ++ outcome.notes } =
      settle script { party with notes := party.notes ++ notes } outcome := by
  simp only [settle, List.append_assoc]

/-- A turn ends at the stage that its action gives. -/
theorem settle_goOn_of_ok {p : σ → Prop} {next : Act Session { s : σ // p s }} {seat : Seat}
    {stage : { s : σ // p s }} (h : (next seat.toSession).result = .ok stage) (party : Party σ ρ) :
    settle script party (goOn script next seat) =
      ({ status := enter script stage, session := (next seat.toSession).state,
         notes := party.notes ++ (next seat.toSession).notes }, seat.wire) := by
  simp only [goOn, Seat.onSession, Act.bind_apply, Act.focus_apply]
  generalize next seat.toSession = outcome at h
  obtain ⟨result, state, notes⟩ := outcome
  cases h
  simp only [Act.pure_apply, List.append_nil, settle]

/-- A turn ends with the failure of its action. -/
theorem settle_goOn_of_error {p : σ → Prop} {next : Act Session { s : σ // p s }} {seat : Seat}
    {e : Error} (h : (next seat.toSession).result = .error e) (party : Party σ ρ) :
    settle script party (goOn script next seat) =
      ({ status := .ended (.error e), session := (next seat.toSession).state,
         notes := party.notes ++ (next seat.toSession).notes },
        if script.closesOnFailure then seat.wire.close else seat.wire) := by
  simp only [goOn, Seat.onSession, Act.bind_apply, Act.focus_apply]
  generalize next seat.toSession = outcome at h
  obtain ⟨result, state, notes⟩ := outcome
  cases h
  simp only [settle]

/-! ## A turn that sends -/

theorem enter_of_send {stage : σ} {type : RecordType} {data : Bytes}
    {next : Act Session { s : σ // script.rank s < script.rank stage }}
    (hask : script.ask stage = .send type data next) : enter script stage = .running stage {} := by
  simp only [enter, hask]

/-- A record that fits is written and counted. -/
theorem write_of_fits {type : RecordType} (htype : type ≠ .alert) {data : Bytes}
    {session : Session} {view : Session.View} (shown : session.Shows view)
    (fits : (view.write.stamp type data).Fits) {wire : Wire} (accepts : wire.Accepts) :
    discard (Seat.onConnection (Connection.writeRecord (.number type.code) data))
      { toSession := session, wire } =
        { result := .ok ()
          state := { toSession := counted session
                     wire := wire.sending (view.write.stamp type data).bytes }
          notes := [.sent (view.write.stamp type data)] } := by
  have hwrite : Connection.writeRecord (.number type.code) data
      (Seat.connection { toSession := session, wire }) = _ :=
    Connection.writeRecord_of_accepts accepts type htype (shown.write ▸ fits)
  rw [Act.discard_apply, Seat.onConnection_apply, hwrite]
  show Outcome.mk _ _ _ = _
  rw [← shown.write]
  rfl

/-- A record is sent under the write epoch. -/
theorem goes_send {s t : σ} {v w : Session.View} {unread sent : Bytes} {type : RecordType}
    {data : Bytes} {next : Act Session { later : σ // script.rank later < script.rank s }}
    {hrank : script.rank t < script.rank s} (hask : script.ask s = .send type data next)
    (htype : type ≠ .alert) (fits : (v.write.stamp type data).Fits)
    (hnext : Session.Gives next v ⟨t, hrank⟩ w) :
    Goes script final { stage := s, view := v, unread, sent }
      { stage := t, view := w, unread, sent := sent ++ (v.write.stamp type data).bytes } := by
  rintro ⟨status, session, notes⟩ wire ⟨hstatus, shown, holds⟩
  obtain rfl : status = .running s {} := hstatus.trans (enter_of_send hask)
  have hsent := write_of_fits htype shown fits holds.accepts
  have hstep := steps_of_send hask notes { toSession := session, wire }
  obtain ⟨hresult, shown'⟩ := hnext (counted session) (shows_counted shown)
  rw [sending, Act.bind_apply_of_ok hsent, settle_prepend, settle_goOn_of_ok hresult] at hstep
  exact ⟨_, _, Relation.ReflTransGen.single hstep, rfl, shown', holds.sending _⟩

/-- A record is sent, and the party fails after that. -/
theorem stops_send_next {s : σ} {v : Session.View} {unread sent : Bytes} {type : RecordType}
    {data : Bytes} {next : Act Session { later : σ // script.rank later < script.rank s }}
    (hask : script.ask s = .send type data next) (htype : type ≠ .alert)
    (fits : (v.write.stamp type data).Fits)
    (hnext : ∀ session : Session, session.Shows v → ∃ e, (next session).result = .error e) :
    Stops script final { stage := s, view := v, unread, sent }
      (sent ++ (v.write.stamp type data).bytes) := by
  rintro ⟨status, session, notes⟩ wire ⟨hstatus, shown, holds⟩
  obtain rfl : status = .running s {} := hstatus.trans (enter_of_send hask)
  have hsent := write_of_fits htype shown fits holds.accepts
  have hstep := steps_of_send hask notes { toSession := session, wire }
  obtain ⟨e, herror⟩ := hnext (counted session) (shows_counted shown)
  rw [sending, Act.bind_apply_of_ok hsent, settle_prepend, settle_goOn_of_error herror] at hstep
  exact ⟨_, _, e, Relation.ReflTransGen.single hstep, rfl, (holds.sending _).failed _⟩

/-- A record that does not fit is not sent. -/
theorem stops_send {s : σ} {v : Session.View} {unread sent : Bytes} {type : RecordType}
    {data : Bytes} {next : Act Session { later : σ // script.rank later < script.rank s }}
    (hask : script.ask s = .send type data next) (hfits : ¬(v.write.stamp type data).Fits) :
    Stops script final { stage := s, view := v, unread, sent } sent := by
  rintro ⟨status, session, notes⟩ wire ⟨hstatus, shown, holds⟩
  obtain rfl : status = .running s {} := hstatus.trans (enter_of_send hask)
  obtain ⟨e, hwrite⟩ := @Connection.writeRecord_of_not_fits
    (Seat.connection { toSession := session, wire }) type data (fun fits => hfits (shown.write ▸ fits))
  have hsent : discard (Seat.onConnection (Connection.writeRecord (.number type.code) data))
      { toSession := session, wire } =
        { result := .error e, state := { toSession := session, wire } } := by
    rw [Act.discard_apply, Seat.onConnection_apply, hwrite]
    rfl
  have hstep := steps_of_send hask notes { toSession := session, wire }
  rw [sending, Act.bind_apply_of_error hsent] at hstep
  exact ⟨_, _, e, Relation.ReflTransGen.single hstep, rfl, holds.failed _⟩

/-! ## A turn that receives -/

theorem enter_of_receive {stage : σ}
    {next : Delivery → Act Session { s : σ // script.rank s ≤ script.rank stage }}
    (hask : script.ask stage = .receive next) : enter script stage = .running stage {} := by
  simp only [enter, hask]

/-- The session of a seat after a read that came to something. -/
def afterReading (session : Session) (reading : Transport.Reading) : Session :=
  { transport := reading.transport, log := session.log, schedule := session.schedule }

/-- What a turn that receives comes to, by what a read of the bytes that are
there comes to. -/
theorem reaches_of_reading {stage : σ}
    {next : Delivery → Act Session { s : σ // script.rank s ≤ script.rank stage }}
    (hask : script.ask stage = .receive next) (notes : List Note) (session : Session) {wire : Wire}
    (hopen : wire.incoming.readerClosed = false) (steady : wire.port.Steady)
    {reading : Transport.Reading}
    (hreading : session.transport.reading wire.ending wire.incoming.queue = reading)
    (hnever : wire.incoming.writerClosed = true ∨ ∃ delivery, reading.result = .ok delivery) :
    ∃ reads, Reaches script ({ status := .running stage {}, session, notes }, wire)
      (match reading.result with
        | .ok delivery =>
          settle script
            { status := .running stage {}, session, notes := notes ++ reading.notes }
            (goOn script (next delivery)
              { toSession := afterReading session reading
                wire := wire.leaving reading.unread reads })
        | .error e =>
          settle script { status := .running stage {}, session, notes }
            { result := .error e
              state := { toSession := afterReading session reading
                         wire := wire.leaving reading.unread reads }
              notes := reading.notes }) := by
  subst hreading
  obtain ⟨reads, hread⟩ := @Connection.readOn_eq_reading []
    (Seat.connection { toSession := session, wire }) hopen steady
  have hreach := @reaches_of_receive σ ρ script stage next hask {} notes []
    { toSession := session, wire } hopen steady
    (by rw [hread]; exact hnever)
  have hconnection := Seat.onConnection_apply (Connection.readOn {} []) { toSession := session, wire }
  rw [hread] at hconnection
  refine ⟨reads, ?_⟩
  rw [List.append_nil] at hreach
  simp only [Connection.settled] at hconnection
  change Seat.onConnection _ _ = Outcome.mk
    (session.transport.reading wire.ending wire.incoming.queue).result _ _ at hconnection
  cases hresult : (session.transport.reading wire.ending wire.incoming.queue).result with
  | error e =>
    rw [hresult] at hconnection
    rw [receiving, Act.bind_apply_of_error hconnection] at hreach
    exact hreach
  | ok delivery =>
    rw [hresult] at hconnection
    rw [receiving, Act.bind_apply_of_ok hconnection, settle_prepend] at hreach
    exact hreach

/-- A turn that receives a record of the read epoch comes to the action on it. -/
theorem reaches_of_receives {stage : σ}
    {next : Delivery → Act Session { s : σ // script.rank s ≤ script.rank stage }}
    (hask : script.ask stage = .receive next) (notes : List Note) {session : Session} {wire : Wire}
    {view : Session.View} (shown : session.Shows view) {dropped : List Record}
    {delivery : Delivery} {bytes rest sent : Bytes} (holds : wire.Holds final bytes sent)
    (h : view.Receives dropped delivery bytes rest) :
    ∃ session' reads notes',
      Reaches script ({ status := .running stage {}, session, notes }, wire)
        (settle script { status := .running stage {}, session, notes := notes' }
          (goOn script (next delivery) { toSession := session', wire := wire.leaving rest reads })) ∧
      session'.Shows (view.delivered dropped.length) := by
  obtain ⟨later, hbytes, hleads⟩ := h.leads
  have hunread : wire.incoming.queue = Record.stream dropped ++ later :=
    (congrArg Channel.queue holds.incoming).trans hbytes
  have hopen : wire.incoming.readerClosed = false := congrArg Channel.readerClosed holds.incoming
  obtain ⟨hresult, hrest, htransport⟩ := @Transport.reading_of_leads wire.ending session.transport
    dropped delivery.type delivery.data later rest h.early
    (by rw [shown.skipping, shown.read]; exact h.skips) (by rw [shown.read]; exact hleads)
  obtain ⟨reads, hreach⟩ := reaches_of_reading hask notes session hopen holds.steady rfl
    (Or.inr ⟨delivery, by rw [hunread]; exact hresult⟩)
  rw [hunread, hresult] at hreach
  dsimp only at hreach
  rw [hrest] at hreach
  refine ⟨_, reads, _, hreach, ?_⟩
  rw [afterReading, htransport]
  exact { shown with skipping := rfl, skipped := congrArg (· + dropped.length) shown.skipped }

/-- A record of the read epoch is received, after early data that is dropped. -/
theorem goes_receive {s t : σ} {v w : Session.View} {bytes rest sent : Bytes}
    {dropped : List Record} {delivery : Delivery}
    {next : Delivery → Act Session { later : σ // script.rank later ≤ script.rank s }}
    {hrank : script.rank t ≤ script.rank s} (hask : script.ask s = .receive next)
    (h : v.Receives dropped delivery bytes rest)
    (hnext : Session.Gives (next delivery) (v.delivered dropped.length) ⟨t, hrank⟩ w) :
    Goes script final { stage := s, view := v, unread := bytes, sent }
      { stage := t, view := w, unread := rest, sent } := by
  rintro ⟨status, session, notes⟩ wire ⟨hstatus, shown, holds⟩
  obtain rfl : status = .running s {} := hstatus.trans (enter_of_receive hask)
  obtain ⟨session', reads, notes', hreach, shown'⟩ := reaches_of_receives hask notes shown holds h
  obtain ⟨hgives, shown''⟩ := hnext _ shown'
  rw [settle_goOn_of_ok hgives] at hreach
  exact ⟨_, _, hreach, rfl, shown'', holds.leaving _ _⟩

/-- A record of the read epoch is received while no early data is skipped. -/
theorem goes_receive_next {s t : σ} {v w : Session.View} {bytes rest sent : Bytes}
    {type : RecordType} {data : Bytes}
    {next : Delivery → Act Session { later : σ // script.rank later ≤ script.rank s }}
    {hrank : script.rank t ≤ script.rank s} (hask : script.ask s = .receive next)
    (hskipping : v.skipping = false) (h : (v.read.stamp type data).Leads bytes rest)
    (hnext : Session.Gives (next { type, data }) v ⟨t, hrank⟩ w) :
    Goes script final { stage := s, view := v, unread := bytes, sent }
      { stage := t, view := w, unread := rest, sent } := by
  rw [← Session.View.delivered_zero hskipping] at hnext
  exact goes_receive hask (Session.View.receives_of_leads h) hnext

/-- A turn that receives fails if there is nothing to receive. -/
theorem stops_of_nothing {s : σ} {v : Session.View} {unread sent : Bytes}
    {next : Delivery → Act Session { later : σ // script.rank later ≤ script.rank s }}
    (hask : script.ask s = .receive next)
    (h : ∀ dropped delivery rest, ¬v.Receives dropped delivery unread rest) :
    Stops script true { stage := s, view := v, unread, sent } sent := by
  rintro ⟨status, session, notes⟩ wire ⟨hstatus, shown, holds⟩
  obtain rfl : status = .running s {} := hstatus.trans (enter_of_receive hask)
  have hunread : wire.incoming.queue = unread := congrArg Channel.queue holds.incoming
  have hopen : wire.incoming.readerClosed = false := congrArg Channel.readerClosed holds.incoming
  have hfinal : wire.incoming.writerClosed = true := congrArg Channel.writerClosed holds.incoming
  obtain ⟨e, hresult⟩ : ∃ e, (session.transport.reading wire.ending unread).result = .error e := by
    apply Transport.reading_error_of_none
    intro dropped later type data rest hdropped hskips hbytes hleads
    rw [shown.skipping, shown.read] at hskips
    rw [shown.read] at hleads
    exact h dropped { type, data } rest ⟨hdropped, hskips, later, hbytes, hleads⟩
  obtain ⟨reads, hreach⟩ :=
    reaches_of_reading hask notes session hopen holds.steady rfl (Or.inl hfinal)
  rw [hunread, hresult] at hreach
  exact ⟨_, _, e, hreach, rfl, (holds.leaving _ reads).failed _⟩

/-- A turn that receives a record fails if the action on it does. -/
theorem stops_next {s : σ} {v : Session.View} {bytes rest sent : Bytes} {dropped : List Record}
    {delivery : Delivery}
    {next : Delivery → Act Session { later : σ // script.rank later ≤ script.rank s }}
    (hask : script.ask s = .receive next) (h : v.Receives dropped delivery bytes rest)
    (hnext : ∀ session : Session, session.Shows (v.delivered dropped.length) →
      ∃ e, (next delivery session).result = .error e) :
    Stops script final { stage := s, view := v, unread := bytes, sent } sent := by
  rintro ⟨status, session, notes⟩ wire ⟨hstatus, shown, holds⟩
  obtain rfl : status = .running s {} := hstatus.trans (enter_of_receive hask)
  obtain ⟨session', reads, notes', hreach, shown'⟩ := reaches_of_receives hask notes shown holds h
  obtain ⟨e, herror⟩ := hnext _ shown'
  rw [settle_goOn_of_error herror] at hreach
  exact ⟨_, _, e, hreach, rfl, (holds.leaving _ reads).failed _⟩

/-- A party that receives fails if it does so with all that it may receive. -/
theorem stops_receive {s : σ} {v : Session.View} {bytes sent : Bytes}
    {next : Delivery → Act Session { later : σ // script.rank later ≤ script.rank s }}
    (hask : script.ask s = .receive next)
    (h : ∀ dropped delivery rest, v.Receives dropped delivery bytes rest →
      Stops script true { stage := s, view := v, unread := bytes, sent } sent) :
    Stops script true { stage := s, view := v, unread := bytes, sent } sent := by
  by_cases hreceives : ∃ dropped delivery rest, v.Receives dropped delivery bytes rest
  · obtain ⟨dropped, delivery, rest, hreceives⟩ := hreceives
    exact h dropped delivery rest hreceives
  · refine stops_of_nothing hask fun dropped delivery rest h' => ?_
    exact hreceives ⟨dropped, delivery, rest, h'⟩

/-! ## Beginning and end of a run -/

/-- A side that logs nothing does without a log that can be used. -/
theorem usable_of_silent (log : KeyLog) : false = true → log.fault = none :=
  fun h => nomatch h

/-- A party before its first operation, on a wire whose peer has sent all that
it will ever send. -/
theorem stands_at_start {stage : σ} (hstage : enter script stage = .running stage {})
    (suite : CipherSuite) (side : Side) {logs : Bool} (random : Bytes) {log : KeyLog}
    (husable : logs = true → log.fault = none) {port : Port} (steady : port.Steady)
    (hwrites : port.writeFault = none) (bytes : Bytes) :
    Stands script true { stage, view := { suite }, unread := bytes, sent := [] }
      { status := .running stage {}
        session := { transport := { side, logs, random }, log, schedule := { suite } } }
      { incoming := { queue := bytes, writerClosed := true }, port } where
  status := hstage.symm
  shown := ⟨rfl, rfl, rfl, rfl, rfl, rfl, rfl, rfl, husable⟩
  wire := ⟨rfl, rfl, steady, hwrites⟩

variable {place place' : Place σ} {party : Party σ ρ} {wire : Wire}

/-- A run that comes to the end of its script. -/
theorem run_of_goes (stands : Stands script final place party wire)
    (h : Goes script final place place') {result : Result ρ}
    (hend : enter script place'.stage = .ended result) :
    (run script party wire).1.result = result ∧
      (run script party wire).2.incoming.queue = place'.unread ∧
      (run script party wire).2.outgoing.queue = place'.sent := by
  obtain ⟨party', wire', hreach, stands'⟩ := h party wire stands
  have hstatus : party'.status = .ended result := stands'.status.trans hend
  have hrun : run script party wire = (party', wire') :=
    (run_eq_of_reaches hreach).trans (run_of_ended hstatus)
  rw [hrun]
  refine ⟨?_, congrArg Channel.queue stands'.wire.incoming,
    congrArg Channel.queue stands'.wire.outgoing⟩
  simp only [Party.result, hstatus]

/-- A run that fails. -/
theorem run_of_stops (stands : Stands script final place party wire) {sent : Bytes}
    (h : Stops script final place sent) :
    (∃ e, (run script party wire).1.status = .ended (.error e)) ∧
      (run script party wire).2.outgoing.queue = sent ∧
      (run script party wire).2.incoming.readerClosed = script.closesOnFailure ∧
      (run script party wire).2.outgoing.writerClosed = script.closesOnFailure := by
  obtain ⟨party', wire', e, hreach, hstatus, hend⟩ := h party wire stands
  have hrun : run script party wire = (party', wire') :=
    (run_eq_of_reaches hreach).trans (run_of_ended hstatus)
  rw [hrun]
  exact ⟨⟨e, hstatus⟩, hend⟩

end Party

end RecordLayer
