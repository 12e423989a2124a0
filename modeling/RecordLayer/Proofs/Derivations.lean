import Mathlib.Tactic.Common
import RecordLayer.Proofs.KeyTree

/-!
# What a key schedule has derived

Calls on one key schedule, in any order and with any arguments, also such
that fail half way.

There are five groups.

* Derivations that fail.  A context of more than 255 bytes stops an expansion,
  and what was stored before it stays.
* One call.  `Course` lists every way that a call can go, and `course_perform`
  says that there are no others.  The lemmas after it read off what a call
  does to the table of traffic secrets (`Course.traffic?_eq`) and to the
  secrets of the stem (`Course.keeps`).
* Sizes, and the order in which secrets appear.  `InOrder` is the invariant;
  `InOrder.course` is its step.
* Runs of calls.  `lastGiven?` is what the last successful derivation for a
  level gave.  `traffic?_after`, `inOrder_after` and `keeps_after` carry the
  step lemmas through a run.
* Questions for traffic secrets, and the assembly, `derivations_in_order`.
-/

namespace RecordLayer

/-- The result of an action, changed on the way out. -/
theorem Act.bind_pure_apply {σ α β : Type} (action : Act σ α) (f : α → β) (s : σ) :
    (action >>= fun a => pure (f a)) s =
      { result := (action s).result.map f
        state := (action s).state
        notes := (action s).notes } := by
  rw [Act.bind_apply]
  rcases action s with ⟨_ | _, state, notes⟩
  · rfl
  · simp [Except.map]

namespace KeySchedule

/-! ## Derivations that fail -/

/-- An expansion under a context that is too long for its length field fails. -/
theorem expand_of_long (schedule : KeySchedule) (secret : Bytes) (label : SecretLabel)
    {context : Bytes} (h : 255 < context.length) :
    schedule.expand secret label context = .error .badField := by
  have hfits : ¬Hkdf.Fits schedule.suite.hash.size label.bytes context :=
    fun fits => Nat.not_le.2 h fits.context
  exact Hkdf.expandLabel_of_not_fits _ secret hfits

/-- If the traffic secret cannot be expanded, the early secret stays. -/
theorem deriveEarly_of_long (psk : Option Bytes) {helloHash : Bytes}
    (h : 255 < helloHash.length) (schedule : KeySchedule) :
    let early := KeyTree.early schedule.suite (psk.getD [])
    deriveEarly psk (some helloHash) schedule =
      { result := .error .badField
        state := { schedule with early := some early }
        notes := [.derived .early early] } := by
  have hextract := extractEarly_apply (psk.getD []) schedule
  dsimp only
  generalize KeyTree.early schedule.suite (psk.getD []) = early at hextract ⊢
  have hclient : expand { schedule with early := some early } early .clientEarly helloHash =
      .error .badField := expand_of_long _ early .clientEarly h
  rw [deriveEarly, Act.bind_apply_of_ok hextract]
  dsimp only
  rw [Act.get_bind, Act.ofResult_bind_error hclient]
  rfl

/-- If the traffic secrets cannot be expanded, the early and the handshake
secret stay. -/
theorem deriveHandshake_of_long (shared : Bytes) {transcriptHash : Bytes}
    (h : 255 < transcriptHash.length) (schedule : KeySchedule) :
    deriveHandshake shared transcriptHash schedule =
      { result := .error .badField
        state := { schedule with
          early := some schedule.earlyOr
          handshake := some (KeyTree.handshake schedule.suite schedule.earlyOr shared) }
        notes := if schedule.early = none then [.derived .early schedule.earlyOr] else [] } := by
  have hsalt : derived { schedule with early := some schedule.earlyOr } schedule.earlyOr =
      .ok (KeyTree.salt schedule.suite schedule.earlyOr) := derived_eq _ _
  have hsecret : Hkdf.extract (hash { schedule with early := some schedule.earlyOr })
      (KeyTree.salt schedule.suite schedule.earlyOr) shared =
        KeyTree.handshake schedule.suite schedule.earlyOr shared := rfl
  generalize KeyTree.handshake schedule.suite schedule.earlyOr shared = secret at hsecret ⊢
  have hclient : expand { schedule with early := some schedule.earlyOr }
      secret .clientHandshake transcriptHash = .error .badField := expand_of_long _ _ _ h
  rw [deriveHandshake, Act.bind_apply_of_ok (ensureEarly_apply schedule), Act.get_bind,
    Act.ofResult_bind hsalt]
  dsimp only
  rw [hsecret, Act.set_bind, Act.ofResult_bind_error hclient, List.append_nil]

/-- Without a handshake secret nothing is derived. -/
theorem deriveApplication_of_none (transcriptHash : Bytes) {schedule : KeySchedule}
    (h : schedule.handshake = none) :
    deriveApplication transcriptHash schedule =
      { result := .error .handshakeSecretMissing, state := schedule } := by
  rw [deriveApplication, Act.get_bind, h]
  rfl

/-- If the traffic secrets cannot be expanded, the master secret stays. -/
theorem deriveApplication_of_long {handshake transcriptHash : Bytes}
    (h : 255 < transcriptHash.length) {schedule : KeySchedule}
    (hhandshake : schedule.handshake = some handshake) :
    deriveApplication transcriptHash schedule =
      { result := .error .badField
        state := { schedule with master := some (KeyTree.master schedule.suite handshake) } } := by
  have hsalt := derived_eq schedule handshake
  have hsecret : Hkdf.extract schedule.hash (KeyTree.salt schedule.suite handshake)
      schedule.zeros = KeyTree.master schedule.suite handshake := rfl
  generalize KeyTree.master schedule.suite handshake = secret at hsecret ⊢
  have hclient : schedule.expand secret .clientApplication transcriptHash =
      .error .badField := expand_of_long _ _ _ h
  rw [deriveApplication, Act.get_bind, hhandshake]
  dsimp only
  rw [Act.ofResult_bind hsalt, hsecret, Act.set_bind, Act.ofResult_bind_error hclient]

/-! ## One call -/

theorem perform_early (psk helloHash : Option Bytes) (schedule : KeySchedule) :
    perform (.early psk helloHash) schedule =
      { result := (deriveEarly psk helloHash schedule).result.map .early
        state := (deriveEarly psk helloHash schedule).state
        notes := (deriveEarly psk helloHash schedule).notes } :=
  Act.bind_pure_apply ..

theorem perform_handshake (shared transcriptHash : Bytes) (schedule : KeySchedule) :
    perform (.handshake shared transcriptHash) schedule =
      { result := (deriveHandshake shared transcriptHash schedule).result.map
          (Function.uncurry .handshake)
        state := (deriveHandshake shared transcriptHash schedule).state
        notes := (deriveHandshake shared transcriptHash schedule).notes } :=
  Act.bind_pure_apply _ (Function.uncurry Answer.handshake) _

theorem perform_application (transcriptHash : Bytes) (schedule : KeySchedule) :
    perform (.application transcriptHash) schedule =
      { result := (deriveApplication transcriptHash schedule).result.map
          (Function.uncurry .application)
        state := (deriveApplication transcriptHash schedule).state
        notes := (deriveApplication transcriptHash schedule).notes } :=
  Act.bind_pure_apply _ (Function.uncurry Answer.application) _

theorem perform_traffic (level : Code) (schedule : KeySchedule) :
    perform (.traffic level) schedule =
      { result := (schedule.trafficSecrets level).map .traffic, state := schedule } := by
  show (Act.get >>= fun now => Act.ofResult (now.trafficSecrets level) >>= fun traffic =>
    pure (Answer.traffic traffic)) schedule = _
  rw [Act.get_bind, Act.bind_pure_apply]
  rfl

/-- Verify data can always be computed. -/
theorem perform_verifyData (trafficSecret transcriptHash : Bytes) (schedule : KeySchedule) :
    perform (.verifyData trafficSecret transcriptHash) schedule =
      { result := .ok (.bytes (KeyTree.verifyData schedule.suite trafficSecret transcriptHash))
        state := schedule } := by
  show (Act.get >>= fun now => Act.ofResult (now.verifyData trafficSecret transcriptHash) >>=
    fun bytes => pure (Answer.bytes bytes)) schedule = _
  rw [Act.get_bind, Act.ofResult_bind (schedule.verifyData_eq trafficSecret transcriptHash)]
  rfl

/-- The handshake secret that a key schedule comes to from a shared secret. -/
def handshakeWith (schedule : KeySchedule) (shared : Bytes) : Bytes :=
  KeyTree.handshake schedule.suite schedule.earlyOr shared

/-- Every way that a call can go: what it gives and the key schedule that it
leaves behind. -/
inductive Course (schedule : KeySchedule) : Call → Result Answer → KeySchedule → Prop where
  | hashed (messages : List Bytes) :
    Course schedule (.transcriptHash messages)
      (.ok (.bytes (KeyTree.digest schedule.suite messages))) schedule
  | lookedUp (level : Code) :
    Course schedule (.traffic level) ((schedule.trafficSecrets level).map .traffic) schedule
  | verified (secret hash : Bytes) :
    Course schedule (.verifyData secret hash)
      (.ok (.bytes (KeyTree.verifyData schedule.suite secret hash))) schedule
  | early (psk : Option Bytes) :
    Course schedule (.early psk none) (.ok (.early none))
      { schedule with early := some (KeyTree.early schedule.suite (psk.getD [])) }
  | earlyHalf (psk : Option Bytes) (hash : Bytes) (hlong : 255 < hash.length) :
    Course schedule (.early psk (some hash)) (.error .badField)
      { schedule with early := some (KeyTree.early schedule.suite (psk.getD [])) }
  | earlyWhole (psk : Option Bytes) (hash early client : Bytes) (hshort : hash.length ≤ 255)
      (hearly : early = KeyTree.early schedule.suite (psk.getD []))
      (hclient : client = KeyTree.earlyTraffic schedule.suite early hash) :
    Course schedule (.early psk (some hash)) (.ok (.early (some client)))
      { schedule with early := some early, earlyTraffic := some { client, server := [] } }
  | handshakeHalf (shared hash : Bytes) (hlong : 255 < hash.length) :
    Course schedule (.handshake shared hash) (.error .badField)
      { schedule with
        early := some schedule.earlyOr
        handshake := some (schedule.handshakeWith shared) }
  | handshakeWhole (shared hash : Bytes) (traffic : TrafficSecrets) (hshort : hash.length ≤ 255)
      (htraffic : traffic =
        KeyTree.handshakeTraffic schedule.suite (schedule.handshakeWith shared) hash) :
    Course schedule (.handshake shared hash)
      (.ok (.handshake traffic (schedule.handshakeWith shared)))
      { schedule with
        early := some schedule.earlyOr
        handshake := some (schedule.handshakeWith shared)
        handshakeTraffic := some traffic }
  | applicationTooSoon (hash : Bytes) (hmissing : schedule.handshake = none) :
    Course schedule (.application hash) (.error .handshakeSecretMissing) schedule
  | applicationHalf (handshake hash : Bytes) (hhandshake : schedule.handshake = some handshake)
      (hlong : 255 < hash.length) :
    Course schedule (.application hash) (.error .badField)
      { schedule with master := some (KeyTree.master schedule.suite handshake) }
  | applicationWhole (handshake hash secret : Bytes) (traffic : TrafficSecrets)
      (hhandshake : schedule.handshake = some handshake) (hshort : hash.length ≤ 255)
      (hsecret : secret = KeyTree.master schedule.suite handshake)
      (htraffic : traffic = KeyTree.applicationTraffic schedule.suite secret hash) :
    Course schedule (.application hash) (.ok (.application traffic secret))
      { schedule with master := some secret, applicationTraffic := some traffic }

/-- A call goes in one of these ways. -/
theorem course_perform (call : Call) (schedule : KeySchedule) :
    Course schedule call (perform call schedule).result (perform call schedule).state := by
  cases call with
  | transcriptHash messages => exact .hashed messages
  | traffic level =>
    rw [perform_traffic]
    exact .lookedUp level
  | verifyData secret hash =>
    rw [perform_verifyData]
    exact .verified secret hash
  | early psk helloHash =>
    rw [perform_early]
    rcases helloHash with _ | hash
    · exact .early psk
    rcases Nat.lt_or_ge 255 hash.length with hlong | hshort
    · rw [deriveEarly_of_long psk hlong]
      exact .earlyHalf psk hash hlong
    · rw [deriveEarly_apply psk hshort]
      exact .earlyWhole psk hash _ _ hshort rfl rfl
  | handshake shared hash =>
    rw [perform_handshake]
    rcases Nat.lt_or_ge 255 hash.length with hlong | hshort
    · rw [deriveHandshake_of_long shared hlong]
      exact .handshakeHalf shared hash hlong
    · rw [deriveHandshake_apply shared hshort]
      exact .handshakeWhole shared hash _ hshort rfl
  | application hash =>
    rw [perform_application]
    cases hhandshake : schedule.handshake with
    | none =>
      rw [deriveApplication_of_none hash hhandshake]
      exact .applicationTooSoon hash hhandshake
    | some handshake =>
      rcases Nat.lt_or_ge 255 hash.length with hlong | hshort
      · rw [deriveApplication_of_long hlong hhandshake]
        exact .applicationHalf handshake hash hhandshake hlong
      · rw [deriveApplication_apply hshort hhandshake]
        exact .applicationWhole handshake hash _ _ hhandshake hshort rfl rfl

/-- The traffic secrets of a level that a derivation has given.  Of early data
only the client has one. -/
def given? (call : Call) (result : Result Answer) (level : Level) : Option TrafficSecrets :=
  match call, result, level with
  | .early .., .ok (.early (some client)), .earlyData => some { client, server := [] }
  | .handshake .., .ok (.handshake traffic _), .handshake => some traffic
  | .application _, .ok (.application traffic _), .application => some traffic
  | _, _, _ => none

section Course

variable {schedule later : KeySchedule} {call : Call} {result : Result Answer}

/-- A derivation that succeeds puts what it gives into the table of traffic
secrets; everything else stays there. -/
theorem Course.traffic?_eq (h : Course schedule call result later) (level : Level) :
    later.traffic? level = (given? call result level).or (schedule.traffic? level) := by
  cases h <;> cases level <;> rfl

theorem Course.suite_eq (h : Course schedule call result later) :
    later.suite = schedule.suite := by
  cases h <;> rfl

/-- The handshake secret is there after a derivation of it, also one that
failed on the way to the traffic secrets. -/
theorem Course.isSome_handshake (h : Course schedule call result later) :
    later.handshake.isSome ↔
      schedule.handshake.isSome ∨ ∃ shared hash, call = .handshake shared hash := by
  cases h <;> simp

/-- A call lets no secret of the stem disappear. -/
theorem Course.keeps (h : Course schedule call result later) :
    (schedule.early.isSome → later.early.isSome) ∧
      (schedule.handshake.isSome → later.handshake.isSome) ∧
      (schedule.master.isSome → later.master.isSome) := by
  cases h <;> simp

/-- Only without a handshake secret do the application secrets come too soon. -/
theorem Course.too_soon_iff {hash : Bytes}
    (h : Course schedule (.application hash) result later) :
    result = .error .handshakeSecretMissing ↔ schedule.handshake = none := by
  cases h with
  | applicationTooSoon _ hmissing => simp [hmissing]
  | applicationHalf _ _ hhandshake => simp [hhandshake]
  | applicationWhole _ _ _ _ hhandshake => simp [hhandshake]

end Course

/-! ## Sizes, and the order in which secrets appear -/

/-- The sizes of the traffic secrets of a level. -/
def Sized (suite : CipherSuite) (level : Level) (traffic : TrafficSecrets) : Prop :=
  traffic.client.length = suite.hash.size ∧
    traffic.server.length = if level = .earlyData then 0 else suite.hash.size

/-- The secrets of the stem have the size of a digest, and none is there before
the one that it is extracted under. -/
structure Stem (suite : CipherSuite) (early handshake master : Option Bytes) : Prop where
  size_early : ∀ secret ∈ early, secret.length = suite.hash.size
  size_handshake : ∀ secret ∈ handshake, secret.length = suite.hash.size
  size_master : ∀ secret ∈ master, secret.length = suite.hash.size
  early_of_handshake : handshake.isSome → early.isSome
  handshake_of_master : master.isSome → handshake.isSome

section Stem

variable {suite : CipherSuite} {early handshake master : Option Bytes} {secret : Bytes}

theorem Stem.setEarly (h : Stem suite early handshake master)
    (hsecret : secret.length = suite.hash.size) : Stem suite (some secret) handshake master where
  size_early := by rintro _ ⟨⟩; exact hsecret
  size_handshake := h.size_handshake
  size_master := h.size_master
  early_of_handshake _ := rfl
  handshake_of_master := h.handshake_of_master

theorem Stem.setHandshake (h : Stem suite early handshake master) (hearly : early.isSome)
    (hsecret : secret.length = suite.hash.size) : Stem suite early (some secret) master where
  size_early := h.size_early
  size_handshake := by rintro _ ⟨⟩; exact hsecret
  size_master := h.size_master
  early_of_handshake _ := hearly
  handshake_of_master _ := rfl

theorem Stem.setMaster (h : Stem suite early handshake master) (hhandshake : handshake.isSome)
    (hsecret : secret.length = suite.hash.size) : Stem suite early handshake (some secret) where
  size_early := h.size_early
  size_handshake := h.size_handshake
  size_master := by rintro _ ⟨⟩; exact hsecret
  early_of_handshake := h.early_of_handshake
  handshake_of_master _ := hhandshake

end Stem

/-- The stem of a key schedule is in order, and so is the size of every
traffic secret. -/
structure InOrder (schedule : KeySchedule) : Prop where
  stem : Stem schedule.suite schedule.early schedule.handshake schedule.master
  traffic : ∀ level, level ≠ .initial →
    ∀ traffic ∈ schedule.traffic? level, Sized schedule.suite level traffic

/-- Nothing has been derived at the start. -/
theorem inOrder_start (suite : CipherSuite) : InOrder { suite } where
  stem := ⟨by simp, by simp, by simp, id, id⟩
  traffic := by
    intro level h traffic htraffic
    cases level with
    | initial => exact absurd rfl h
    | earlyData => cases htraffic
    | handshake => cases htraffic
    | application => cases htraffic

/-- The traffic secrets that a call gives have their sizes. -/
theorem Course.sized_given? {schedule later : KeySchedule} {call : Call} {result : Result Answer}
    (h : Course schedule call result later) (level : Level) :
    ∀ traffic ∈ given? call result level, Sized schedule.suite level traffic := by
  intro traffic hgiven
  cases h with
  | earlyWhole _ _ _ _ _ _ hclient =>
    cases level <;> cases hgiven
    rw [hclient]
    exact ⟨KeyTree.length_expand .., rfl⟩
  | handshakeWhole _ _ _ _ htraffic =>
    cases level <;> cases hgiven
    rw [htraffic]
    exact ⟨KeyTree.length_expand .., KeyTree.length_expand ..⟩
  | applicationWhole _ _ _ _ _ _ _ htraffic =>
    cases level <;> cases hgiven
    rw [htraffic]
    exact ⟨KeyTree.length_expand .., KeyTree.length_expand ..⟩
  | _ => cases level <;> cases hgiven

/-- The early secret that a key schedule goes on from has the size of a digest. -/
theorem InOrder.length_earlyOr {schedule : KeySchedule} (h : InOrder schedule) :
    schedule.earlyOr.length = schedule.suite.hash.size := by
  unfold earlyOr
  cases hearly : schedule.early with
  | none => exact Hkdf.length_extract ..
  | some early => exact h.stem.size_early early hearly

/-- A call keeps the order. -/
theorem InOrder.course {schedule later : KeySchedule} {call : Call} {result : Result Answer}
    (h : InOrder schedule) (hcourse : Course schedule call result later) : InOrder later where
  stem := by
    cases hcourse with
    | hashed | lookedUp | verified | applicationTooSoon => exact h.stem
    | early | earlyHalf => exact h.stem.setEarly (Hkdf.length_extract ..)
    | earlyWhole _ _ _ _ _ hearly =>
      rw [hearly]
      exact h.stem.setEarly (Hkdf.length_extract ..)
    | handshakeHalf | handshakeWhole =>
      exact (h.stem.setEarly h.length_earlyOr).setHandshake rfl (Hkdf.length_extract ..)
    | applicationHalf handshake _ hhandshake =>
      exact h.stem.setMaster (Option.isSome_of_eq_some hhandshake) (Hkdf.length_extract ..)
    | applicationWhole handshake _ _ _ hhandshake _ hsecret =>
      rw [hsecret]
      exact h.stem.setMaster (Option.isSome_of_eq_some hhandshake) (Hkdf.length_extract ..)
  traffic := by
    intro level hlevel traffic hmem
    rw [hcourse.traffic?_eq, Option.mem_def, Option.or_eq_some_iff] at hmem
    rw [hcourse.suite_eq]
    rcases hmem with hgiven | ⟨-, hold⟩
    · exact hcourse.sized_given? level traffic hgiven
    · exact h.traffic level hlevel traffic hold

/-! ## Runs of calls -/

/-- A call that has been made, with what it gave. -/
structure Event where
  call : Call
  result : Result Answer

/-- The history of a run of calls. -/
def events : KeySchedule → List Call → List Event
  | _, [] => []
  | schedule, call :: calls =>
    { call, result := (perform call schedule).result } ::
      events (perform call schedule).state calls

/-- The key schedule after a run of calls. -/
def after : KeySchedule → List Call → KeySchedule
  | schedule, [] => schedule
  | schedule, call :: calls => after (perform call schedule).state calls

/-- The traffic secrets that the last successful derivation for a level gave. -/
def lastGiven? (history : List Event) (level : Level) : Option TrafficSecrets :=
  (history.filterMap fun event => given? event.call event.result level).getLast?

theorem lastGiven?_cons (event : Event) (history : List Event) (level : Level) :
    lastGiven? (event :: history) level =
      (lastGiven? history level).or (given? event.call event.result level) := by
  unfold lastGiven?
  cases hgiven : given? event.call event.result level with
  | none => simp [hgiven]
  | some traffic => simp [hgiven, List.getLast?_cons]

/-- The table of traffic secrets holds what the last successful derivation for
each level gave, and before the first such derivation what it held at first. -/
theorem traffic?_after (schedule : KeySchedule) (calls : List Call) (level : Level) :
    (after schedule calls).traffic? level =
      (lastGiven? (events schedule calls) level).or (schedule.traffic? level) := by
  induction calls generalizing schedule with
  | nil => rfl
  | cons call calls ih =>
    rw [after, events, ih, lastGiven?_cons, Option.or_assoc,
      (course_perform call schedule).traffic?_eq]

theorem inOrder_after {schedule : KeySchedule} (h : InOrder schedule) (calls : List Call) :
    InOrder (after schedule calls) := by
  induction calls generalizing schedule with
  | nil => exact h
  | cons call calls ih => exact ih (h.course (course_perform call schedule))

theorem suite_after (schedule : KeySchedule) (calls : List Call) :
    (after schedule calls).suite = schedule.suite := by
  induction calls generalizing schedule with
  | nil => rfl
  | cons call calls ih => rw [after, ih, (course_perform call schedule).suite_eq]

/-- No secret of the stem disappears on the way. -/
theorem keeps_after (schedule : KeySchedule) (calls : List Call) :
    (schedule.early.isSome → (after schedule calls).early.isSome) ∧
      (schedule.handshake.isSome → (after schedule calls).handshake.isSome) ∧
      (schedule.master.isSome → (after schedule calls).master.isSome) := by
  induction calls generalizing schedule with
  | nil => exact ⟨id, id, id⟩
  | cons call calls ih =>
    obtain ⟨hearly, hhandshake, hmaster⟩ := (course_perform call schedule).keeps
    obtain ⟨hearly', hhandshake', hmaster'⟩ := ih (perform call schedule).state
    exact ⟨hearly' ∘ hearly, hhandshake' ∘ hhandshake, hmaster' ∘ hmaster⟩

/-- The handshake secret is there once its derivation has been called. -/
theorem isSome_handshake_after (schedule : KeySchedule) (calls : List Call) :
    (after schedule calls).handshake.isSome ↔
      schedule.handshake.isSome ∨ ∃ shared hash, Call.handshake shared hash ∈ calls := by
  induction calls generalizing schedule with
  | nil => simp [after]
  | cons call calls ih =>
    rw [after, ih, (course_perform call schedule).isSome_handshake]
    simp only [List.mem_cons, exists_or, or_assoc, eq_comm]

/-! ## Questions for traffic secrets -/

/-- The answer to a question for the traffic secrets of a level, from what the
table holds for it.  There is nothing to look up at the initial level. -/
def lookUp (code : Code) (table : Level → Option TrafficSecrets) : Result TrafficSecrets :=
  match Level.ofCode? code with
  | none => .error (.noSecrets code)
  | some .initial => .ok { client := [], server := [] }
  | some level =>
    match table level with
    | none => .error (.noSecrets code)
    | some traffic => .ok traffic

/-- A question is answered from the last successful derivation for its level. -/
theorem trafficSecrets_after (suite : CipherSuite) (calls : List Call) (code : Code) :
    (after { suite } calls).trafficSecrets code =
      lookUp code (lastGiven? (events { suite } calls)) := by
  have htable := traffic?_after { suite } calls
  generalize after { suite } calls = now at htable ⊢
  generalize lastGiven? (events { suite } calls) = given at htable ⊢
  unfold trafficSecrets lookUp
  cases Level.ofCode? code with
  | none => rfl
  | some level =>
    have hempty : level ≠ .initial → traffic? { suite } level = none := by
      cases level <;> simp [traffic?]
    cases level with
    | initial => rfl
    | earlyData | handshake | application =>
      rw [Option.bind_some, htable, hempty (by decide), Option.or_none]
      split <;> simp_all

/-! ## The assembly -/

/-- What holds of a key schedule after any calls on it, in any order and also
such that failed.

Each secret of the stem has the size of a digest, stays for good, and comes
after the one that it is extracted under.  Traffic secrets have that size as
well; there is none of the server for early data.  A question for traffic
secrets is answered by what the last successful derivation for that level gave,
and is refused if there was none.  The application secrets come too soon
exactly as long as there is no handshake secret, which is until its derivation
is called. -/
theorem derivations_in_order (suite : CipherSuite) (calls : List Call) :
    let now := after { suite } calls
    let given := lastGiven? (events { suite } calls)
    let size := suite.hash.size
    start suite.code = .ok { suite } ∧
    ((∀ secret ∈ now.early, secret.length = size) ∧
      (∀ secret ∈ now.handshake, secret.length = size) ∧
      ∀ secret ∈ now.master, secret.length = size) ∧
    (∀ more, (now.early.isSome → (after now more).early.isSome) ∧
      (now.handshake.isSome → (after now more).handshake.isSome) ∧
      (now.master.isSome → (after now more).master.isSome)) ∧
    ((now.handshake.isSome → now.early.isSome) ∧ (now.master.isSome → now.handshake.isSome)) ∧
    ((∀ traffic ∈ now.earlyTraffic, traffic.client.length = size ∧ traffic.server = []) ∧
      (∀ traffic ∈ now.handshakeTraffic,
        traffic.client.length = size ∧ traffic.server.length = size) ∧
      ∀ traffic ∈ now.applicationTraffic,
        traffic.client.length = size ∧ traffic.server.length = size) ∧
    (∀ code, perform (.traffic code) now =
      { result := (lookUp code given).map .traffic, state := now }) ∧
    (∀ hash, (perform (.application hash) now).result = .error .handshakeSecretMissing ↔
      now.handshake = none) ∧
    (now.handshake = none ↔ ∀ shared hash, Call.handshake shared hash ∉ calls) := by
  intro now given size
  have hsuite : now.suite = suite := suite_after { suite } calls
  obtain ⟨hstem, htraffic⟩ : InOrder now := inOrder_after (inOrder_start suite) calls
  rw [hsuite] at hstem htraffic
  refine ⟨start_code suite, ⟨hstem.size_early, hstem.size_handshake, hstem.size_master⟩,
    keeps_after now, ⟨hstem.early_of_handshake, hstem.handshake_of_master⟩,
    ⟨?_, ?_, ?_⟩, ?_, ?_, ?_⟩
  · intro traffic hmem
    obtain ⟨hclient, hserver⟩ := htraffic .earlyData (by decide) traffic hmem
    exact ⟨hclient, List.length_eq_zero_iff.1 hserver⟩
  · exact htraffic .handshake (by decide)
  · exact htraffic .application (by decide)
  · intro code
    rw [perform_traffic, trafficSecrets_after]
  · intro hash
    exact (course_perform (.application hash) now).too_soon_iff
  · have hthere := isSome_handshake_after { suite } calls
    rw [← Option.not_isSome_iff_eq_none, hthere]
    simp

end KeySchedule

end RecordLayer
