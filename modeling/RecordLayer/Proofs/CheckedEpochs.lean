import Mathlib.Tactic.Common
import RecordLayer.Proofs.Courses
import RecordLayer.Proofs.Invariants
import RecordLayer.Proofs.SharedLog
import RecordLayer.Proofs.WholeWrites

/-!
# Epochs that were checked

An installation and a change of a level check their arguments before they
assign anything.  So both epochs of a transport are well formed as long as
nobody assigns one without a check (`Pair.Call.Checked`), and records under a
well-formed epoch can always be packed.

A secret that was released passes the checks of an installation, but it cannot
be read when its turn comes.  The epoch is then well formed all the same, but a
mixed one: it has the new level and the new suite, and the old secret.

* `Pair.act_install` and `Pair.act_setLevel` say all that the two setters can
  do: refuse their arguments and leave everything as it was, stop at a secret
  that was released, or change the epoch of one direction.
* `Pair.epochs_act`: no other checked call touches an epoch.
* `Pair.wellFormed_act` is what one call keeps, and `Group.wellFormed_after` what
  a run keeps.
* `Pair.act_write_of_wellFormed`: only the wire can refuse a write under a
  well-formed epoch.
-/

namespace RecordLayer

/-! ## The arguments of a setter -/

/-- The codes of the four levels. -/
def Level.codes : List Code := [.number 0, .number 1, .number 2, .number 3]

theorem Level.ofCode?_of_mem {code : Code} (h : code ∈ codes) :
    ∃ level : Level, code = .number level.code ∧ ofCode? code = some level := by
  unfold codes at h
  simp only [List.mem_cons, List.not_mem_nil, or_false] at h
  rcases h with h | h | h | h
  · exact ⟨.initial, h, by rw [h]; rfl⟩
  · exact ⟨.earlyData, h, by rw [h]; rfl⟩
  · exact ⟨.handshake, h, by rw [h]; rfl⟩
  · exact ⟨.application, h, by rw [h]; rfl⟩

theorem Level.ofCode?_of_not_mem {code : Code} (h : code ∉ codes) : ofCode? code = none := by
  rw [Option.eq_none_iff_forall_ne_some]
  intro level hlevel
  apply h
  obtain rfl := ofCode?_eq_some_iff.1 hlevel
  cases level <;> decide

namespace Epoch

/-- What the checks of an installation object to, if anything.  The level comes
before the suite, and both before the secret. -/
def objection? (level : Code) (suite : Int) (secret : Secret) : Option Error :=
  if level ∉ Level.codes then some (.badLevel level)
  else if ¬(0 ≤ suite ∧ suite ≤ 65535) then some (.suiteOutOfRange suite)
  else if secret = .other then some .secretNotBytes
  else none

variable {level : Code} {suite : Int} {secret : Secret}

theorem checkLevel_of_mem (h : level ∈ Level.codes) :
    ∃ known : Level, level = .number known.code ∧ checkLevel level = .ok known := by
  obtain ⟨known, hcode, hknown⟩ := Level.ofCode?_of_mem h
  refine ⟨known, hcode, ?_⟩
  rw [checkLevel, hknown]

theorem checkLevel_of_not_mem (h : level ∉ Level.codes) :
    checkLevel level = .error (.badLevel level) := by
  rw [checkLevel, Level.ofCode?_of_not_mem h]

/-- The first objection is what an installation fails with. -/
theorem install_of_objection {cause : Error} (h : objection? level suite secret = some cause)
    (before : Epoch) :
    install level suite secret before = { result := .error cause, state := before } := by
  unfold objection? at h
  by_cases hlevel : level ∈ Level.codes
  case neg =>
    rw [if_pos hlevel] at h
    rw [← Option.some.inj h, install_of_badLevel (checkLevel_of_not_mem hlevel)]
  obtain ⟨known, -, hknown⟩ := checkLevel_of_mem hlevel
  rw [if_neg (not_not_intro hlevel)] at h
  by_cases hsuite : 0 ≤ suite ∧ suite ≤ 65535
  case neg =>
    rw [if_pos hsuite] at h
    rw [← Option.some.inj h, install_of_badSuite hknown hsuite]
  rw [if_neg (not_not_intro hsuite)] at h
  by_cases hsecret : secret = .other
  case neg =>
    rw [if_neg hsecret] at h
    cases h
  subst hsecret
  rw [if_pos rfl] at h
  rw [← Option.some.inj h, install_of_known hknown hsuite]

/-- Without an objection an installation makes a well-formed epoch of its
arguments, or stops at a secret that was released. -/
theorem install_of_no_objection (h : objection? level suite secret = none) (before : Epoch) :
    ∃ known : Level, level = .number known.code ∧ (0 ≤ suite ∧ suite ≤ 65535) ∧
      ((∃ bytes, secret = .bytes bytes ∧
        install level suite secret before =
          { result := .ok (), state := { level := known.code, suite, secret := bytes } }) ∨
      (secret = .released ∧
        install level suite secret before =
          { result := .error .secretReleased
            state := { before with level := known.code, suite } })) := by
  unfold objection? at h
  split_ifs at h with hlevel hsuite hsecret
  obtain ⟨known, hcode, hknown⟩ := checkLevel_of_mem hlevel
  have hinstall := install_of_known hknown hsuite secret before
  refine ⟨known, hcode, hsuite, ?_⟩
  cases secret with
  | bytes bytes => exact Or.inl ⟨bytes, rfl, hinstall⟩
  | released => exact Or.inr ⟨rfl, hinstall⟩
  | other => exact absurd rfl hsecret

end Epoch

/-! ## Transports with well-formed epochs -/

/-- Both epochs are well formed. -/
structure Transport.WellFormed (transport : Transport) : Prop where
  read : transport.read.WellFormed
  write : transport.write.WellFormed

namespace Transport

variable {transport : Transport}

theorem WellFormed.epoch (h : transport.WellFormed) (direction : Direction) :
    (transport.epoch direction).WellFormed := by
  cases direction with
  | read => exact h.read
  | write => exact h.write

theorem WellFormed.setEpoch (h : transport.WellFormed) (direction : Direction) {epoch : Epoch}
    (hepoch : epoch.WellFormed) : (transport.setEpoch direction epoch).WellFormed := by
  cases direction with
  | read => exact ⟨hepoch, h.write⟩
  | write => exact ⟨h.read, hepoch⟩

theorem Alike.wellFormed {after : Transport} (halike : transport.Alike after)
    (h : transport.WellFormed) : after.WellFormed := by
  refine ⟨?_, ?_⟩
  · rw [halike.read]
    exact h.read
  · rw [halike.write]
    exact h.write

/-- A read leaves both epochs alone, whatever it comes to. -/
theorem Course.alike {bytes : Bytes} {reading : Reading}
    (course : Course transport bytes reading) : transport.Alike reading.transport := by
  induction course with
  | fails => exact Alike.refl _
  | judges =>
    unfold judge
    split
    · exact Alike.refl _
    · exact ⟨rfl, rfl, rfl, rfl, rfl⟩
  | drops hfront hdrops hlater ih => exact ⟨ih.side, ih.logs, ih.random, ih.read, ih.write⟩

end Transport

/-! ## What one call does to the epochs -/

namespace Pair

/-- A call that does not assign an epoch without a check. -/
def Call.Checked : Call → Prop
  | .assign .. => False
  | _ => True

/-- All that an installation can do on a key log that can be written: refuse its
arguments and change nothing, stop at a secret that was released with the level
and the suite of its direction changed, or change the epoch of its direction. -/
theorem act_install (direction : Direction) (level : Code) (suite : Int) (secret : Secret)
    {connection : Connection} (hfault : connection.log.fault = none) :
    match Epoch.objection? level suite secret with
    | some cause =>
      Call.act (.install direction level suite secret) connection =
        { result := .error cause, state := connection }
    | none =>
      ∃ known : Level, level = .number known.code ∧ (0 ≤ suite ∧ suite ≤ 65535) ∧
        ((∃ (bytes : Bytes) (growth : KeyLog.Growth), secret = .bytes bytes ∧
          Call.act (.install direction level suite secret) connection =
            { result := .ok .nothing
              state :=
                { transport := connection.transport.setEpoch direction
                    { level := known.code, suite, secret := bytes }
                  log := connection.log.grownBy growth
                  wire := connection.wire }
              notes := [.installed direction known.code suite bytes.length] }) ∨
        (secret = .released ∧
          Call.act (.install direction level suite secret) connection =
            { result := .error .secretReleased
              state := { connection with
                transport := connection.transport.setEpoch direction
                  { connection.transport.epoch direction with level := known.code, suite } } })) := by
  have hact : Call.act (.install direction level suite secret) connection =
      answerNothing (Connection.onEndpoint (Endpoint.install direction level suite secret))
        connection := rfl
  rw [answerNothing_apply, Connection.onEndpoint, Act.focus_apply, Endpoint.install_eq] at hact
  cases hobjection : Epoch.objection? level suite secret with
  | some cause =>
    rw [Epoch.install_of_objection hobjection] at hact
    dsimp only at hact
    rw [Endpoint.withEpoch_epoch] at hact
    exact hact
  | none =>
    obtain ⟨known, hcode, hsuite, ⟨bytes, hsecret, hinstall⟩ | ⟨hsecret, hinstall⟩⟩ :=
      Epoch.install_of_no_objection hobjection (connection.transport.epoch direction)
    all_goals
      rw [hinstall] at hact
      dsimp only at hact
      refine ⟨known, hcode, hsuite, ?_⟩
    · rw [Endpoint.report_eq] at hact
      refine Or.inl ⟨bytes, ?_⟩
      cases hlabel : (connection.toEndpoint.withEpoch direction
          { level := known.code, suite, secret := bytes }).label? direction level with
      | none =>
        rw [hlabel] at hact
        refine ⟨{}, hsecret, ?_⟩
        rw [hact, KeyLog.grownBy_nothing]
        rfl
      | some label =>
        have hlog : (connection.toEndpoint.withEpoch direction
            { level := known.code, suite, secret := bytes }).log = connection.log := rfl
        rw [hlabel, hlog, hfault] at hact
        obtain ⟨growth, hgrowth⟩ := KeyLog.grows_grown connection.log
          (connection.toEndpoint.withEpoch direction
            { level := known.code, suite, secret := bytes }).transport.random label bytes
        refine ⟨growth, hsecret, ?_⟩
        rw [hact, ← hgrowth]
        rfl
    · exact Or.inr ⟨hsecret, hact⟩

/-- All that a change of a level can do: refuse it and change nothing, or change
the level of its direction. -/
theorem act_setLevel (direction : Direction) (level : Code) (connection : Connection) :
    (level ∉ Level.codes →
      Call.act (.setLevel direction level) connection =
        { result := .error (.badLevel level), state := connection }) ∧
    (level ∈ Level.codes →
      ∃ known : Level, level = .number known.code ∧
        Call.act (.setLevel direction level) connection =
          { result := .ok .nothing
            state := { connection with
              transport := connection.transport.setEpoch direction
                { connection.transport.epoch direction with level := known.code } } }) := by
  have hact : Call.act (.setLevel direction level) connection =
      answerNothing (Connection.onEndpoint (Endpoint.setLevel direction level)) connection := rfl
  simp only [answerNothing_apply, Connection.onEndpoint, Act.focus_apply, Endpoint.setLevel,
    Act.bind_apply, Act.get_apply, Act.ofResult_apply] at hact
  constructor
  · intro hlevel
    have hset : (connection.transport.epoch direction).setLevel level =
        .error (.badLevel level) := by
      rw [Epoch.setLevel, Epoch.checkLevel_of_not_mem hlevel]
      rfl
    rw [hact, hset]
    rfl
  · intro hlevel
    obtain ⟨known, hcode, hknown⟩ := Epoch.checkLevel_of_mem hlevel
    have hset : (connection.transport.epoch direction).setLevel level =
        .ok { connection.transport.epoch direction with level := known.code } := by
      rw [Epoch.setLevel, hknown]
      rfl
    refine ⟨known, hcode, ?_⟩
    rw [hact, hset]
    rfl

/-- No other checked call touches an epoch. -/
theorem epochs_act {call : Call} (hchecked : call.Checked)
    (hinstall : ∀ direction level suite secret, call ≠ .install direction level suite secret)
    (hlevel : ∀ direction level, call ≠ .setLevel direction level) (connection : Connection) :
    connection.transport.Alike (call.act connection).state.transport := by
  cases call with
  | install direction level suite secret => exact absurd rfl (hinstall direction level suite secret)
  | setLevel direction level => exact absurd rfl (hlevel direction level)
  | assign direction assignment => exact hchecked.elim
  | skip value => exact ⟨rfl, rfl, rfl, rfl, rfl⟩
  | write type data =>
    rw [act_write]
    have hsends := Connection.sends_writeRecord type data connection
    generalize Connection.writeRecord type data connection = outcome at hsends ⊢
    cases hsends with
    | refused => exact Transport.Alike.refl _
    | failed => exact Transport.Alike.refl _
    | sent => exact ⟨rfl, rfl, rfl, rfl, rfl⟩
  | read =>
    obtain ⟨reading, course, hcomes⟩ := Connection.readRecord_course connection
    rw [act_read]
    dsimp only
    rw [hcomes.transport]
    exact course.alike
  | raw bytes =>
    rw [Call.act, answerNothing_apply]
    exact Transport.Alike.refl _
  | unstructured method => exact Transport.Alike.refl _
  | close => exact Transport.Alike.refl _
  | limit count => exact Transport.Alike.refl _
  | fault direction f => cases direction <;> exact Transport.Alike.refl _

/-- Checked calls keep both epochs well formed. -/
theorem wellFormed_act {call : Call} (hchecked : call.Checked) {connection : Connection}
    (hfault : connection.log.fault = none) (h : connection.transport.WellFormed) :
    (call.act connection).state.transport.WellFormed := by
  by_cases hinstall : ∃ direction level suite secret, call = .install direction level suite secret
  · obtain ⟨direction, level, suite, secret, rfl⟩ := hinstall
    have hact := act_install direction level suite secret hfault
    cases hobjection : Epoch.objection? level suite secret with
    | some cause =>
      rw [hobjection] at hact
      rw [hact]
      exact h
    | none =>
      rw [hobjection] at hact
      obtain ⟨known, -, hsuite, ⟨bytes, growth, -, hact⟩ | ⟨-, hact⟩⟩ := hact
      all_goals
        rw [hact]
        exact h.setEpoch direction ⟨⟨known, rfl⟩, hsuite⟩
  by_cases hset : ∃ direction level, call = .setLevel direction level
  · obtain ⟨direction, level, rfl⟩ := hset
    obtain ⟨hrefused, haccepted⟩ := act_setLevel direction level connection
    by_cases hlevel : level ∈ Level.codes
    · obtain ⟨known, -, hact⟩ := haccepted hlevel
      rw [hact]
      exact h.setEpoch direction ⟨⟨known, rfl⟩, (h.epoch direction).2⟩
    · rw [hrefused hlevel]
      exact h
  · apply Transport.Alike.wellFormed _ h
    apply epochs_act hchecked
    · intro direction level suite secret hcall
      exact hinstall ⟨direction, level, suite, secret, hcall⟩
    · intro direction level hcall
      exact hset ⟨direction, level, hcall⟩

/-- Only the wire can refuse a record of a type that can be sent under a
well-formed epoch. -/
theorem act_write_of_wellFormed {connection : Connection}
    (h : connection.transport.write.WellFormed) {type : RecordType} (htype : type ≠ .alert)
    {data : Bytes} (hsize : connection.transport.write.secret.length + data.length < 4294967296) :
    (Call.act (.write (.number type.code) data) connection).result =
      match connection.wire.refusal? with
      | some error => .error (.stream error)
      | none => .ok (.count data.length) := by
  obtain ⟨⟨level, hlevel⟩, hnonneg, hle⟩ := h
  have hsuite : 0 ≤ connection.transport.write.suite ∧ connection.transport.write.suite ≤ 65535 :=
    ⟨hnonneg, hle⟩
  have hcode : 0 ≤ connection.transport.write.level ∧ connection.transport.write.level ≤ 255 := by
    rw [hlevel]
    cases level <;> decide
  have hsendable : RecordType.sendable? (.number type.code) = some type := by
    cases type with
    | alert => exact absurd rfl htype
    | handshake => rfl
    | applicationData => rfl
  obtain ⟨fault, hwrite⟩ := Connection.writeRecord_of_fits hsendable
    (Connection.fits_stamp type hsuite (Nat.lt_succ_iff.1 hsize) hcode)
  rw [act_write, hwrite]
  cases connection.wire.refusal? with
  | some error => rfl
  | none => rfl

end Pair

/-! ## Runs -/

namespace Group

variable {ι : Type} [DecidableEq ι]

/-- A run of checked calls keeps the epochs of all transports well formed. -/
theorem wellFormed_after {group : Group ι} (hfault : group.log.fault = none)
    (h : ∀ member, (group.transport member).WellFormed) {turns : List (Turn ι)}
    (hchecked : ∀ turn ∈ turns, turn.call.Checked) (member : ι) :
    ((group.after turns).transport member).WellFormed := by
  induction turns generalizing group with
  | nil => exact h member
  | cons turn turns ih =>
    have hgrows := @grows_event turn.call (group.connection turn) hfault
    have hfault' : (group.next turn).log.fault = none := by
      show (event turn.call (group.connection turn)).after.fault = none
      rw [hgrows]
      exact hfault
    refine ih hfault' ?_ fun turn hturn => hchecked turn (List.mem_cons_of_mem _ hturn)
    intro other
    show (Function.update group.transport turn.member _ other).WellFormed
    by_cases hother : other = turn.member
    · subst hother
      rw [Function.update_self]
      exact Pair.wellFormed_act (hchecked turn List.mem_cons_self) hfault (h turn.member)
    · rw [Function.update_of_ne hother]
      exact h other

/-- Whatever is called on fresh transports, if only no epoch is assigned without
a check, what was checked stays true.

Take any run of such calls on transports that share a key log that can be
written, each call on its wire as it stands at that moment, and then one more
call on any wire.  Both epochs of each transport have one of the four levels and
a suite of two bytes.  An installation is refused for the first objection to its
arguments, and then everything is as it was; otherwise it changes the epoch of
its own direction, and the key log may grow, unless its secret was released: then
it fails, and of its own direction the level and the suite have changed, but not
the secret, and nothing else has.  A change of a level is refused for
a code that is none of a level, and then everything is as it was; otherwise it
changes the level of its own direction and nothing else.  And a handshake or
application data record of less than 4 GiB is written, unless the wire refuses
it. -/
theorem checked_epochs_can_be_written {start : Group ι} (hfault : start.log.fault = none)
    (hfresh : ∀ member, (start.transport member).read = {} ∧ (start.transport member).write = {})
    {turns : List (Turn ι)} (hchecked : ∀ turn ∈ turns, turn.call.Checked) (member : ι)
    (wire : Wire) :
    let transport := (start.after turns).transport member
    let log := (start.after turns).log
    let connection : Connection := { transport, log, wire }
    (transport.read.WellFormed ∧ transport.write.WellFormed) ∧
    (∀ direction level suite secret,
      let outcome := Pair.Call.act (.install direction level suite secret) connection
      match Epoch.objection? level suite secret with
      | some cause => outcome = { result := .error cause, state := connection }
      | none =>
        ∃ known : Level, level = .number known.code ∧
          ((∃ (bytes : Bytes) (growth : KeyLog.Growth), secret = .bytes bytes ∧
            outcome =
              { result := .ok .nothing
                state :=
                  { transport :=
                      transport.setEpoch direction { level := known.code, suite, secret := bytes }
                    log := log.grownBy growth
                    wire }
                notes := [.installed direction known.code suite bytes.length] }) ∨
          (secret = .released ∧
            outcome =
              { result := .error .secretReleased
                state := { connection with
                  transport := transport.setEpoch direction
                    { transport.epoch direction with level := known.code, suite } } }))) ∧
    (∀ direction level,
      let outcome := Pair.Call.act (.setLevel direction level) connection
      (level ∉ Level.codes →
        outcome = { result := .error (.badLevel level), state := connection }) ∧
      (level ∈ Level.codes →
        ∃ known : Level, level = .number known.code ∧
          outcome =
            { result := .ok .nothing
              state := { connection with
                transport := transport.setEpoch direction
                  { transport.epoch direction with level := known.code } } })) ∧
    ∀ (type : RecordType) (data : Bytes), type ≠ .alert →
      transport.write.secret.length + data.length < 4294967296 →
      (Pair.Call.act (.write (.number type.code) data) connection).result =
        match wire.refusal? with
        | some error => .error (.stream error)
        | none => .ok (.count data.length) := by
  intro transport log connection
  have hstart : ∀ member, (start.transport member).WellFormed := by
    intro member
    obtain ⟨hread, hwrite⟩ := hfresh member
    refine ⟨?_, ?_⟩
    · rw [hread]
      exact Epoch.wellFormed_default
    · rw [hwrite]
      exact Epoch.wellFormed_default
  have h : transport.WellFormed := wellFormed_after hfault hstart hchecked member
  have hlog : log.fault = none := by
    show (start.after turns).log.fault = none
    rw [log_after hfault turns]
    exact hfault
  refine ⟨⟨h.read, h.write⟩, ?_, ?_, ?_⟩
  · intro direction level suite secret outcome
    have hact := @Pair.act_install direction level suite secret connection hlog
    cases hobjection : Epoch.objection? level suite secret with
    | some cause =>
      rw [hobjection] at hact
      exact hact
    | none =>
      rw [hobjection] at hact
      obtain ⟨known, hcode, -, houtcome⟩ := hact
      exact ⟨known, hcode, houtcome⟩
  · intro direction level
    exact Pair.act_setLevel direction level connection
  · intro type data htype hsize
    exact @Pair.act_write_of_wellFormed connection h.write type htype data hsize

/-- A secret for the handshake is installed and the level moved on.  In between
an installation fails for its suite, one for its secret, one because its secret
was released, and a change of the level for its code.  Both epochs are well
formed, and what is written then goes out at the level of the application, and
fails only if the other end is closed. -/
theorem checked_epochs_can_be_written_after_refusals :
    let start : Group Unit :=
      { transport := fun _ => { side := .client, logs := true, random := [1] } }
    let turns : List (Turn Unit) :=
      [⟨(), .install .write (.number 2) 0x1302 (.bytes [7]), {}⟩,
        ⟨(), .install .write (.number 1) 65536 .other, {}⟩,
        ⟨(), .install .write (.number 1) 65535 .other, {}⟩,
        ⟨(), .install .read (.number 1) 65535 .released, {}⟩,
        ⟨(), .setLevel .write (.text "3"), {}⟩, ⟨(), .setLevel .write (.number 3), {}⟩]
    let transport := (start.after turns).transport ()
    let writes (wire : Wire) :=
      (Pair.Call.act (.write (.number 23) [5, 6])
        { transport, log := (start.after turns).log, wire }).result
    start.log.fault = none ∧
      (∀ member, (start.transport member).read = {} ∧ (start.transport member).write = {}) ∧
      (∀ turn ∈ turns, turn.call.Checked) ∧
      transport.read = { level := 1, suite := 65535, secret := [] } ∧
      transport.write = { level := 3, suite := 0x1302, secret := [7] } ∧
      (transport.read.WellFormed ∧ transport.write.WellFormed) ∧
      writes {} = .ok (.count 2) ∧
      writes { outgoing := { readerClosed := true } } = .error (.stream .brokenPipe) := by
  intro start turns transport writes
  have hfresh : ∀ member,
      (start.transport member).read = {} ∧ (start.transport member).write = {} :=
    fun _ => ⟨rfl, rfl⟩
  have hchecked : ∀ turn ∈ turns, turn.call.Checked := by
    simp [turns, Pair.Call.Checked]
  have hread : transport.read = { level := 1, suite := 65535, secret := [] } := by decide
  have hwrite : transport.write = { level := 3, suite := 0x1302, secret := [7] } := by decide
  have hsize : transport.write.secret.length + [5, 6].length < 4294967296 := by
    rw [hwrite]
    decide
  obtain ⟨hepochs, -, -, hopen⟩ := checked_epochs_can_be_written rfl hfresh hchecked () {}
  obtain ⟨-, -, -, hclosed⟩ :=
    checked_epochs_can_be_written rfl hfresh hchecked () { outgoing := { readerClosed := true } }
  exact ⟨rfl, hfresh, hchecked, hread, hwrite, hepochs,
    hopen .applicationData [5, 6] (by decide) hsize,
    hclosed .applicationData [5, 6] (by decide) hsize⟩

/-- An installation that fails can leave a mixed epoch behind.  Here the secret
was released: the level and the suite are the new ones, the secret is still that
of the handshake, and what is written next is stamped with all three. -/
theorem released_secret_leaves_mixed_epoch :
    let start : Group Unit := { transport := fun _ => { side := .client } }
    let turns : List (Turn Unit) := [⟨(), .install .write (.number 2) 0x1301 (.bytes [7]), {}⟩]
    let connection : Connection :=
      { transport := (start.after turns).transport (), log := (start.after turns).log, wire := {} }
    let outcome := Pair.Call.act (.install .write (.number 3) 0x1302 .released) connection
    let written := Pair.Call.act (.write (.number 23) [5]) outcome.state
    outcome.result = .error .secretReleased ∧
      connection.transport.write = { level := 2, suite := 0x1301, secret := [7] } ∧
      outcome.state.transport.write = { level := 3, suite := 0x1302, secret := [7] } ∧
      outcome.state ≠ connection ∧
      written.state.wire.outgoing.queue = [65, 3, 0x13, 0x02, 0, 0, 0, 2, 7, 5] := by
  decide

end Group

end RecordLayer
