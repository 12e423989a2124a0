import Mathlib.Tactic.Common
import Mathlib.Logic.Function.Basic
import RecordLayer.Proofs.Conservation
import RecordLayer.Proofs.KeyLogs
import RecordLayer.Proofs.KeyLogText

/-!
# One key log for many transports

Any number of transports may report to one key log.  `Group` holds them, and a
`Turn` is a call on one of them, on its wire as it stands at that moment;
nothing is said about what happens to the wires in between.

`Event.line?` reads off from a call and its result the line that it ought to
add.  `Event.grows` says that one call adds that line and nothing else;
`log_after` carries it through a run, and `log_is_history` is the result.
`exists_turns` finds the runs of a linked pair among those of a group.
-/

namespace RecordLayer

/-! ## Calls that do not install anything -/

namespace Connection

/-- One read from the wire does not touch the key log. -/
theorem log_receive (intake : Intake) (connection : Connection) :
    (receive intake connection).state.log = connection.log := by
  unfold receive
  split
  rfl

/-- Reading does not touch the key log. -/
theorem log_readOn (intake : Intake) (before : List Note) (connection : Connection) :
    (readOn intake before connection).state.log = connection.log := by
  induction intake, before, connection using readOn.induct with
  | case1 intake before connection cause later notes hreceive =>
    have hlog := log_receive intake connection
    rw [hreceive] at hlog
    rw [readOn, hreceive]
    exact hlog
  | case2 intake before connection delivery later notes hreceive =>
    have hlog := log_receive intake connection
    rw [hreceive] at hlog
    rw [readOn, hreceive]
    exact hlog
  | case3 intake before connection intake' later notes hreceive ih =>
    have hlog := log_receive intake connection
    rw [hreceive] at hlog
    rw [readOn, hreceive]
    exact ih.trans hlog

end Connection

namespace Pair

/-- Only an installation touches the key log. -/
theorem log_act {call : Call}
    (h : ∀ direction level suite secret, call ≠ .install direction level suite secret)
    (connection : Connection) : (call.act connection).state.log = connection.log := by
  cases call with
  | install direction level suite secret => exact absurd rfl (h direction level suite secret)
  | setLevel direction level =>
    simp only [Call.act, answerNothing_apply, Connection.onEndpoint, Act.focus_apply,
      Endpoint.setLevel, Act.bind_apply, Act.get_apply, Act.ofResult_apply]
    cases (connection.transport.epoch direction).setLevel level with
    | error cause => rfl
    | ok epoch => rfl
  | assign direction assignment => rfl
  | skip value => rfl
  | write type data =>
    rw [act_write]
    exact Connection.log_writeRecord type data connection
  | read =>
    rw [act_read]
    exact Connection.log_readOn {} [] connection
  | raw bytes =>
    rw [Call.act, answerNothing_apply]
    rfl
  | unstructured method => rfl
  | close => rfl
  | limit count => rfl
  | fault direction f => cases direction <;> rfl

end Pair

/-! ## What a call adds -/

/-- Whose secret an installation installs: a side writes with its own and reads
with that of its peer. -/
def Direction.owner : Direction → Side → Side
  | .write, .client => .client
  | .read, .server => .client
  | .write, .server => .server
  | .read, .client => .server

theorem Direction.sender_eq_owner (direction : Direction) (side : Side) :
    direction.sender side = direction.owner side := by
  cases direction <;> cases side <;> rfl

/-- The label that belongs to a secret at a level, by its owner.  A secret of the
initial level has none, and neither has one of the server's for early data. -/
def secretLabel? : Code → Side → Option String
  | .number 1, .client => some "CLIENT_EARLY_TRAFFIC_SECRET"
  | .number 2, .client => some "CLIENT_HANDSHAKE_TRAFFIC_SECRET"
  | .number 3, .client => some "CLIENT_TRAFFIC_SECRET_0"
  | .number 2, .server => some "SERVER_HANDSHAKE_TRAFFIC_SECRET"
  | .number 3, .server => some "SERVER_TRAFFIC_SECRET_0"
  | _, _ => none

/-- Secrets are reported under the labels that belong to them. -/
theorem label?_eq_secretLabel? (level : Code) (owner : Side) :
    KeyLog.label? level owner = secretLabel? level owner := by
  cases hlevel : Level.ofCode? level with
  | some known =>
    obtain rfl := Level.ofCode?_eq_some_iff.1 hlevel
    cases known <;> cases owner <;> rfl
  | none =>
    have hlabel : KeyLog.label? level owner = none := by rw [KeyLog.label?, hlevel]; rfl
    rw [hlabel]
    unfold secretLabel?
    split
    next => cases hlevel
    next => cases hlevel
    next => cases hlevel
    next => cases hlevel
    next => cases hlevel
    next => rfl

namespace Group

/-- A call that was made on a transport. -/
structure Event where
  /-- The transport before the call. -/
  transport : Transport
  call : Pair.Call
  result : Result Pair.Answer
  /-- The key log before the call. -/
  before : KeyLog
  /-- The key log after the call. -/
  after : KeyLog

/-- A call, as it comes out on a connection. -/
def event (call : Pair.Call) (connection : Connection) : Event where
  transport := connection.transport
  call
  result := (call.act connection).result
  before := connection.log
  after := (call.act connection).state.log

/-- The label of the secret that a call has installed, on a transport that
reports its secrets and knows the client random. -/
def Event.label? (event : Event) : Option String :=
  match event.call, event.result with
  | .install direction level _ _, .ok _ =>
    if event.transport.logs = true ∧ event.transport.random ≠ [] then
      secretLabel? level (direction.owner event.transport.side)
    else none
  | _, _ => none

/-- The line that belongs to a call: that of the secret that it has installed,
unless this is empty. -/
def Event.line? (event : Event) : Option KeyLog.Entry :=
  match event.call, event.label? with
  | .install _ _ _ (.bytes secret), some label =>
    if secret = [] then none else some { label, random := event.transport.random, secret }
  | _, _ => none

/-- What belongs to a call: it makes the file if its secret has a label. -/
def Event.growth (event : Event) : KeyLog.Growth where
  created := event.label?.isSome
  entries := event.line?.toList

/-- The label of an endpoint, by the owner of the secret. -/
theorem label?_eq (endpoint : Endpoint) (direction : Direction) (level : Code) :
    endpoint.label? direction level =
      if endpoint.transport.logs = true ∧ endpoint.transport.random ≠ [] then
        secretLabel? level (direction.owner endpoint.transport.side)
      else none := by
  simp only [Endpoint.label?, label?_eq_secretLabel?, Direction.sender_eq_owner, Bool.and_eq_true, Bool.not_eq_true',
    List.isEmpty_eq_false_iff]

/-- No label is empty. -/
theorem isEmpty_of_secretLabel? {level : Code} {owner : Side} {label : String}
    (h : secretLabel? level owner = some label) : label.isEmpty = false := by
  unfold secretLabel? at h
  split at h <;> cases h <;> rfl

/-- No label has a space or a line end in it. -/
theorem plain_of_secretLabel? {level : Code} {owner : Side} {label : String}
    (h : secretLabel? level owner = some label) :
    ' ' ∉ label.toList ∧ '\n' ∉ label.toList := by
  unfold secretLabel? at h
  split at h <;> cases h <;> decide

/-- The lines for one secret with a label. -/
theorem entriesFor_of_secretLabel? {level : Code} {owner : Side} {label : String}
    (h : secretLabel? level owner = some label) (random secret : Bytes) :
    KeyLog.entriesFor random [(some label, secret)] =
      if secret = [] then [] else [{ label, random, secret }] := by
  rw [KeyLog.entriesFor, List.filterMap_cons]
  dsimp only
  rw [isEmpty_of_secretLabel? h, Bool.false_or]
  cases secret <;> rfl

/-- An installation adds what belongs to it. -/
theorem grows_install (direction : Direction) (level : Code) (suite : Int) (secret : Secret)
    {connection : Connection} (hfault : connection.log.fault = none) :
    let event := event (.install direction level suite secret) connection
    event.after = connection.log.grownBy event.growth := by
  have hinstalls := Epoch.installs_install level suite secret
    (connection.transport.epoch direction)
  simp only [event, Event.growth, Event.line?, Event.label?, Pair.Call.act,
    Pair.answerNothing_apply, Connection.onEndpoint, Act.focus_apply, Endpoint.install_eq]
  generalize Epoch.install level suite secret (connection.transport.epoch direction) = installed
    at hinstalls ⊢
  cases hinstalls with
  | refused cause => simp [Except.map]
  | halfway known => simp [Except.map, Endpoint.withEpoch]
  | installed known bytes hlevel hsuite hsecret =>
    obtain rfl := hsecret
    dsimp only
    rw [Endpoint.report_eq, Endpoint.label?_withEpoch, label?_eq]
    by_cases hreports : connection.transport.logs = true ∧ connection.transport.random ≠ []
    case neg => simp [hreports, Except.map, Endpoint.withEpoch]
    rw [if_pos hreports]
    cases hlabel : secretLabel? level (direction.owner connection.transport.side) with
    | none => simp [hreports, hlabel, Except.map, Endpoint.withEpoch]
    | some label =>
      have hlog (epoch : Epoch) :
          (connection.toEndpoint.withEpoch direction epoch).log.fault = none := hfault
      have hrandom (epoch : Epoch) :
          (connection.toEndpoint.withEpoch direction epoch).transport.random =
            connection.transport.random := by cases direction <;> rfl
      rw [hlog]
      dsimp only
      rw [hrandom, KeyLog.grown, entriesFor_of_secretLabel? hlabel]
      by_cases hempty : bytes = []
      · simp [hreports, hlabel, Except.map, hempty, KeyLog.grownBy, Endpoint.withEpoch]
      · simp [hreports, hlabel, Except.map, hempty, KeyLog.grownBy, Endpoint.withEpoch]

/-- A call adds what belongs to it. -/
theorem grows_event (call : Pair.Call) {connection : Connection}
    (hfault : connection.log.fault = none) :
    (event call connection).after = connection.log.grownBy (event call connection).growth := by
  by_cases hinstall : ∃ direction level suite secret, call = .install direction level suite secret
  · obtain ⟨direction, level, suite, secret, rfl⟩ := hinstall
    exact grows_install direction level suite secret hfault
  · have hother : ∀ direction level suite secret, call ≠ .install direction level suite secret :=
      fun direction level suite secret h => hinstall ⟨direction, level, suite, secret, h⟩
    have hlabel : (event call connection).label? = none := by
      unfold Event.label?
      split
      next hcall _ => exact absurd hcall (hother _ _ _ _)
      next => rfl
    have hgrowth : (event call connection).growth = {} := by
      simp [Event.growth, Event.line?, hlabel]
    rw [hgrowth, KeyLog.grownBy_nothing]
    exact Pair.log_act hother connection

/-! ## Runs of a group -/

end Group

/-- Any number of transports that share one key log. -/
structure Group (ι : Type) where
  transport : ι → Transport
  log : KeyLog := {}

namespace Group

variable {ι : Type}

/-- A call on one of the transports, on its wire as it stands at that moment. -/
structure Turn (ι : Type) where
  member : ι
  call : Pair.Call
  wire : Wire

/-- What the transport whose turn it is works on. -/
def connection (group : Group ι) (turn : Turn ι) : Connection where
  transport := group.transport turn.member
  log := group.log
  wire := turn.wire

variable [DecidableEq ι]

/-- The group after a turn. -/
def next (group : Group ι) (turn : Turn ι) : Group ι :=
  let later := (turn.call.act (group.connection turn)).state
  { transport := Function.update group.transport turn.member later.transport, log := later.log }

/-- The group after a run of turns. -/
def after : Group ι → List (Turn ι) → Group ι
  | group, [] => group
  | group, turn :: turns => after (group.next turn) turns

/-- The history of a run of turns. -/
def events : Group ι → List (Turn ι) → List Event
  | _, [] => []
  | group, turn :: turns =>
    event turn.call (group.connection turn) :: events (group.next turn) turns

/-- The key log of a group that takes turns has grown by what belongs to their calls. -/
theorem log_after {group : Group ι} (hfault : group.log.fault = none) (turns : List (Turn ι)) :
    (group.after turns).log = group.log.grownBy
      { created := (group.events turns).any fun event => event.label?.isSome
        entries := (group.events turns).filterMap Event.line? } := by
  induction turns generalizing group with
  | nil => exact (KeyLog.grownBy_nothing _).symm
  | cons turn turns ih =>
    have hnext : (group.next turn).log =
        group.log.grownBy (event turn.call (group.connection turn)).growth :=
      grows_event turn.call hfault
    have hfault' : (group.next turn).log.fault = none := by
      rw [hnext]
      exact hfault
    rw [after, ih hfault', hnext, KeyLog.grownBy_grownBy, events]
    simp only [KeyLog.Growth.then, Event.growth, List.any_cons, List.filterMap_cons]
    cases (event turn.call (group.connection turn)).line? <;> rfl

/-- Each call of a run adds what belongs to it. -/
theorem events_grow {group : Group ι} (hfault : group.log.fault = none) (turns : List (Turn ι)) :
    ∀ event ∈ group.events turns, event.after = event.before.grownBy event.growth := by
  induction turns generalizing group with
  | nil =>
    intro event hevent
    cases hevent
  | cons turn turns ih =>
    have hnext := @grows_event turn.call (group.connection turn) hfault
    have hfault' : (group.next turn).log.fault = none := by
      show (event turn.call (group.connection turn)).after.fault = none
      rw [hnext]
      exact hfault
    intro event hevent
    rcases List.mem_cons.1 hevent with rfl | hevent
    · exact hnext
    · exact ih hfault' event hevent

/-! ## The key log is the history of the installations -/

/-- A call without a label leaves the key log alone. -/
theorem Event.growth_of_no_label {event : Event} (h : event.label? = none) : event.growth = {} := by
  simp [growth, line?, h]

theorem Event.label?_of_error {event : Event} {cause : Error} (h : event.result = .error cause) :
    event.label? = none := by
  unfold label?
  rw [h]
  split
  next hok => cases hok
  next => rfl

theorem Event.label?_of_other {event : Event}
    (h : ∀ direction level suite secret, event.call ≠ .install direction level suite secret) :
    event.label? = none := by
  unfold label?
  split
  next hcall _ => exact absurd hcall (h _ _ _ _)
  next => rfl

/-- A secret without a label is not reported. -/
theorem Event.label?_of_unlabelled {event : Event} {direction : Direction} {level : Code}
    {suite : Int} {secret : Secret}
    (hcall : event.call = .install direction level suite secret)
    (hlabel : secretLabel? level (direction.owner event.transport.side) = none) :
    event.label? = none := by
  unfold label?
  rw [hcall]
  cases event.result with
  | error cause => rfl
  | ok answer =>
    dsimp only
    rw [hlabel, ite_self]

/-- The label of a call is one of a secret. -/
theorem Event.exists_secretLabel {event : Event} {label : String} (h : event.label? = some label) :
    ∃ level owner, secretLabel? level owner = some label := by
  unfold label? at h
  split at h
  next direction level _ _ _ _ _ =>
    split at h
    next => exact ⟨level, _, h⟩
    next => cases h
  next => cases h

/-- A secret with a label that was installed on a transport that logs is reported. -/
theorem Event.growth_of_label {event : Event} {direction : Direction} {level : Code} {suite : Int}
    {secret : Bytes} {label : String} {answer : Pair.Answer}
    (hcall : event.call = .install direction level suite (.bytes secret))
    (hresult : event.result = .ok answer)
    (hlogs : event.transport.logs = true ∧ event.transport.random ≠ [])
    (hlabel : secretLabel? level (direction.owner event.transport.side) = some label) :
    event.growth =
      { created := true
        entries :=
          if secret = [] then [] else [{ label, random := event.transport.random, secret }] } := by
  have hreported : event.label? = some label := by
    unfold label?
    rw [hcall, hresult]
    dsimp only
    rw [if_pos hlogs, hlabel]
  unfold growth line?
  rw [hcall, hreported]
  by_cases hempty : secret = []
  · simp [hempty]
  · simp [hempty]

/-- The line that belongs to a call can be read back. -/
theorem Event.plain_line {event : Event} {entry : KeyLog.Entry} (h : event.line? = some entry) :
    entry.Plain := by
  unfold line? at h
  split at h
  next secret label _ hlabel =>
    split at h
    next => cases h
    next =>
      obtain rfl := Option.some.inj h
      obtain ⟨level, owner, hfor⟩ := exists_secretLabel hlabel
      exact plain_of_secretLabel? hfor
  next => cases h

/-- A key log shared by any number of transports is the history of their
installations, whatever is called on them and on whatever wires.

Its lines are, in the order of the calls, those of the secrets installed with
success that are not empty and have a label, on transports that log and know
the client random; the label is that of the secret's owner.  Its text is one
line after another, and these same lines can be read back from it.  The file is
there if and only if a secret with a label was installed on such a transport,
be it empty.  Each such installation adds its line to what is there before it.
Calls that fail, installations at the initial level and of the server's early
data, and all other calls leave the key log as it was. -/
theorem log_is_history (transports : ι → Transport) (turns : List (Turn ι)) :
    let start : Group ι := { transport := transports }
    let log := (start.after turns).log
    let history := start.events turns
    let lines := history.filterMap Event.line?
    log.entries = lines ∧
    KeyLog.textOf lines = String.join (lines.map fun entry =>
      entry.label ++ " " ++ entry.random.hex ++ " " ++ entry.secret.hex ++ "\n") ∧
    KeyLog.readText? (KeyLog.textOf lines) = some lines ∧
    (log.text? = none ↔ ∀ event ∈ history, event.label? = none) ∧
    (∀ text, log.text? = some text → text = KeyLog.textOf lines) ∧
    ∀ event ∈ history,
      (∀ direction level suite secret label answer,
        event.call = .install direction level suite (.bytes secret) → event.result = .ok answer →
        event.transport.logs = true ∧ event.transport.random ≠ [] →
        secretLabel? level (direction.owner event.transport.side) = some label →
        event.after =
          { event.before with
            created := true
            entries := event.before.entries ++
              if secret = [] then []
              else [{ label, random := event.transport.random, secret }] }) ∧
      (∀ cause, event.result = .error cause → event.after = event.before) ∧
      (∀ direction suite secret, event.call = .install direction (.number 0) suite secret →
        event.after = event.before) ∧
      (∀ direction suite secret, event.call = .install direction (.number 1) suite secret →
        direction.owner event.transport.side = .server → event.after = event.before) ∧
      ((∀ direction level suite secret, event.call ≠ .install direction level suite secret) →
        event.after = event.before) := by
  intro start log history lines
  have hlog : log = ({} : KeyLog).grownBy
      { created := history.any fun event => event.label?.isSome, entries := lines } :=
    log_after rfl turns
  have hcreated : log.created = history.any fun event => event.label?.isSome := by
    rw [hlog]
    rfl
  have hentries : log.entries = lines := by
    rw [hlog]
    rfl
  have hplain : ∀ entry ∈ lines, entry.Plain := by
    intro entry hentry
    obtain ⟨event, -, hevent⟩ := List.mem_filterMap.1 hentry
    exact Event.plain_line hevent
  refine ⟨hentries, ?_, KeyLog.readText?_textOf hplain, ?_, ?_, ?_⟩
  · exact KeyLog.textOf_eq_join lines
  · rw [KeyLog.text?, hcreated, ite_eq_right_iff]
    simp only [reduceCtorEq, imp_false, List.any_eq_true, not_exists, not_and,
      Option.not_isSome_iff_eq_none]
  · intro text htext
    rw [KeyLog.text?, hentries] at htext
    split at htext
    · exact (Option.some.inj htext).symm
    · cases htext
  · intro event hevent
    have hgrow := @events_grow ι _ start rfl turns event hevent
    have hquiet : event.label? = none → event.after = event.before := by
      intro h
      rw [hgrow, Event.growth_of_no_label h, KeyLog.grownBy_nothing]
    refine ⟨?_, fun cause h => hquiet ?_, fun direction suite secret h => hquiet ?_,
      fun direction suite secret h howner => hquiet ?_, fun h => hquiet ?_⟩
    · intro direction level suite secret label answer hcall hresult hlogs hlabel
      rw [hgrow, Event.growth_of_label hcall hresult hlogs hlabel, KeyLog.grownBy, Bool.or_true]
    · exact Event.label?_of_error h
    · exact Event.label?_of_unlabelled h rfl
    · exact Event.label?_of_unlabelled h (by rw [howner]; rfl)
    · exact Event.label?_of_other h

/-- Both sides install secrets at every level, and both report them to one key
log: each line says whose secret it is, not who installed it.  The first four
turns add nothing; the last one would only make the file. -/
theorem log_is_history_of_both_sides :
    let transports : Side → Transport := fun side => { side, logs := true, random := [0xab] }
    let start : Group Side := { transport := transports }
    let install (side : Side) (direction : Direction) (level : Int) (secret : Secret) :
        Turn Side :=
      ⟨side, .install direction (.number level) 0x1301 secret, {}⟩
    let turns : List (Turn Side) :=
      [install .client .write 0 (.bytes [9]), install .server .write 1 (.bytes [9]),
        install .client .read 2 .released, install .client .write 4 (.bytes [9]),
        install .client .write 1 (.bytes [1]), install .server .read 1 (.bytes [1]),
        install .server .write 2 (.bytes [2]), install .client .read 2 (.bytes [2]),
        install .client .write 2 (.bytes [3, 4]), install .server .read 2 (.bytes [3, 4]),
        install .server .write 3 (.bytes [5]), install .client .read 3 (.bytes [5]),
        install .client .write 3 (.bytes [6]), install .server .read 3 (.bytes [6]),
        install .server .read 3 (.bytes [])]
    let lines : List (String × Bytes) :=
      [("CLIENT_EARLY_TRAFFIC_SECRET", [1]), ("CLIENT_EARLY_TRAFFIC_SECRET", [1]),
        ("SERVER_HANDSHAKE_TRAFFIC_SECRET", [2]), ("SERVER_HANDSHAKE_TRAFFIC_SECRET", [2]),
        ("CLIENT_HANDSHAKE_TRAFFIC_SECRET", [3, 4]), ("CLIENT_HANDSHAKE_TRAFFIC_SECRET", [3, 4]),
        ("SERVER_TRAFFIC_SECRET_0", [5]), ("SERVER_TRAFFIC_SECRET_0", [5]),
        ("CLIENT_TRAFFIC_SECRET_0", [6]), ("CLIENT_TRAFFIC_SECRET_0", [6])]
    let entries : List KeyLog.Entry :=
      lines.map fun (label, secret) => { label, random := [0xab], secret }
    (start.after turns).log.entries = entries ∧
      (start.after (turns.take 4)).log.text? = none ∧
      KeyLog.readText? (KeyLog.textOf entries) = some entries := by
  intro transports start install turns lines entries
  have hlines : (start.events turns).filterMap Event.line? = entries := by decide +kernel
  have hquiet : ∀ event ∈ start.events (turns.take 4), event.label? = none := by decide +kernel
  obtain ⟨hentries, -, hread, -⟩ := log_is_history transports turns
  obtain ⟨-, -, -, hmissing, -⟩ := log_is_history transports (turns.take 4)
  rw [show { transport := transports } = start from rfl] at hentries hmissing
  rw [hlines] at hentries hread
  exact ⟨hentries, hmissing.2 hquiet, hread⟩

end Group

/-! ## A pair is a group of two -/

namespace Pair

/-- The transports of a pair, without the link between them. -/
def group (pair : Pair) : Group Side where
  transport := pair.transport
  log := pair.log

/-- Any calls on a pair are turns of its group, on the wires of its link. -/
theorem exists_turns (pair : Pair) (calls : List (Side × Call)) :
    ∃ turns : List (Group.Turn Side),
      turns.map (fun turn => (turn.member, turn.call)) = calls ∧
      pair.group.after turns = (pair.after calls).group := by
  induction calls generalizing pair with
  | nil => exact ⟨[], rfl, rfl⟩
  | cons made calls ih =>
    obtain ⟨side, call⟩ := made
    obtain ⟨turns, hcalls, hafter⟩ := ih (perform side call pair).state
    let turn : Group.Turn Side := { member := side, call, wire := pair.link.wire side }
    have htransport : Function.update pair.transport side
        (call.act (pair.connection side)).state.transport =
          (perform side call pair).state.transport := by
      funext other
      cases side <;> cases other <;> rfl
    have hnext : pair.group.next turn = (perform side call pair).state.group := by
      show Group.mk _ _ = Group.mk _ _
      rw [← htransport]
      cases side <;> rfl
    refine ⟨turn :: turns, by rw [List.map_cons, hcalls], ?_⟩
    rw [Group.after, hnext]
    exact hafter

end Pair

end RecordLayer
