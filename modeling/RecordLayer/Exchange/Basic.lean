import RecordLayer.Exchange.Client
import RecordLayer.Exchange.Server

/-!
# Exchanges

A client and a server run their scripts at the two ends of a link, each in
its own time.  `Exchange.step?` lets one side do its next operation;
`Exchange.run` lets the sides take turns until both have ended or both wait.

A side that fails closes its end, so that the other side does not wait for it
forever.  `Exchange.verdict` tells which failure is reported: after a failure
of the server that comes from the protocol or the stream, the failure of the
client, if there is one.
-/

namespace RecordLayer

/-- What an exchange is given. -/
structure Exchange.Config where
  agreement : KeyAgreement
  suite : Int := 0x1301
  /-- The number of records of early data. -/
  earlyData : Int := 0
  rejectEarlyData : Bool := false
  clientKey : Bytes
  serverKey : Bytes
  clientRandom : Bytes
  serverRandom : Bytes
  /-- Whether the client reports its secrets to the key log. -/
  logs : Bool := false

/-- What an exchange reports in the end. -/
structure Exchange.Summary where
  suite : Int
  client : Client.Summary
  server : Server.Summary
deriving DecidableEq, Repr

/-- A client and a server under way. -/
structure Exchange where
  client : Party Client.Stage Client.Summary
  server : Party Server.Stage Server.Summary
  link : Link := {}

namespace Exchange

/-- The client's script with its ClientHello. -/
def clientScript (config : Config) (hello : Bytes) : Script Client.Stage Client.Summary :=
  Client.script {
    agreement := config.agreement
    privateKey := config.clientKey
    hello
    earlyData := config.earlyData }

/-- The server's script.  In an exchange the server closes its end too when it
fails. -/
def serverScript (config : Config) : Script Server.Stage Server.Summary :=
  { Server.script {
      agreement := config.agreement
      privateKey := config.serverKey
      random := config.serverRandom
      earlyData := config.earlyData
      rejectEarlyData := config.rejectEarlyData } with
    closesOnFailure := true }

/-- The ClientHello of an exchange, which offers its suite alone. -/
def clientHello (config : Config) : Result Bytes :=
  Message.clientHello (config.agreement.publicKey config.clientKey) [config.suite]
    (0 < config.earlyData) config.clientRandom

/-- Both sides before their first operation, and the ClientHello.  The number
of early records is checked before the suite. -/
def start (config : Config) (log : KeyLog) : Result (Exchange × Bytes) := do
  if config.earlyData < 0 then
    throw (.negativeEarlyData config.earlyData)
  let server ← Server.start { side := .server } {} config.suite
  let hello ← clientHello config
  let client ← Client.start
    { side := .client, logs := config.logs, random := config.clientRandom } log config.suite
  return ({ client, server }, hello)

/-- Let one side do its next operation, if there is one and it need not wait. -/
def step? (config : Config) (hello : Bytes) (side : Side) (exchange : Exchange) :
    Option Exchange :=
  match side with
  | .client =>
    (Party.step? (clientScript config hello) exchange.client (exchange.link.wire .client)).map
      fun (client, wire) => { exchange with client, link := exchange.link.setWire .client wire }
  | .server =>
    (Party.step? (serverScript config) exchange.server (exchange.link.wire .server)).map
      fun (server, wire) => { exchange with server, link := exchange.link.setWire .server wire }

/-- A bound on the operations of both sides that send or end something. -/
def rank (config : Config) (hello : Bytes) (exchange : Exchange) : Nat :=
  Party.rankOf (clientScript config hello) exchange.client.status +
    Party.rankOf (serverScript config) exchange.server.status

/-- The number of bytes under way. -/
def inFlight (exchange : Exchange) : Nat :=
  exchange.link.toClient.queue.length + exchange.link.toServer.queue.length

/-- An operation lowers the rank, or keeps it and takes bytes off the link. -/
theorem step?_descends {config : Config} {hello : Bytes} {side : Side}
    {before after : Exchange} (h : step? config hello side before = some after) :
    after.rank config hello < before.rank config hello ∨
      after.rank config hello ≤ before.rank config hello ∧ after.inFlight < before.inFlight := by
  cases side with
  | client =>
    obtain ⟨⟨client, wire⟩, hstep, rfl⟩ := Option.map_eq_some_iff.1 h
    rcases Party.descends_of_step? hstep with hrank | ⟨hrank, hout, hqueue⟩
    · exact Or.inl (Nat.add_lt_add_right hrank _)
    · refine Or.inr ⟨Nat.add_le_add_right hrank _, ?_⟩
      simp only [inFlight, Link.setWire, Link.wire] at hout hqueue ⊢
      rw [hout]
      omega
  | server =>
    obtain ⟨⟨server, wire⟩, hstep, rfl⟩ := Option.map_eq_some_iff.1 h
    rcases Party.descends_of_step? hstep with hrank | ⟨hrank, hout, hqueue⟩
    · exact Or.inl (Nat.add_lt_add_left hrank _)
    · refine Or.inr ⟨Nat.add_le_add_left hrank _, ?_⟩
      simp only [inFlight, Link.setWire, Link.wire] at hout hqueue ⊢
      rw [hout]
      omega

/-- The next operation of the side whose turn it is: the server's, or the
client's while the server waits. -/
def turn? (config : Config) (hello : Bytes) (exchange : Exchange) : Option Exchange :=
  match step? config hello .server exchange with
  | some after => some after
  | none => step? config hello .client exchange

theorem turn?_descends {config : Config} {hello : Bytes} {before after : Exchange}
    (h : turn? config hello before = some after) :
    after.rank config hello < before.rank config hello ∨
      after.rank config hello ≤ before.rank config hello ∧ after.inFlight < before.inFlight := by
  unfold turn? at h
  split at h
  next hstep =>
    obtain rfl := Option.some.inj h
    exact step?_descends hstep
  next => exact step?_descends h

/-- Take turns until neither side can do anything. -/
def run (config : Config) (hello : Bytes) (exchange : Exchange) : Exchange :=
  match _h : turn? config hello exchange with
  | none => exchange
  | some after => run config hello after
termination_by (exchange.rank config hello, exchange.inFlight)
decreasing_by
  rcases turn?_descends _h with hrank | ⟨hrank, hbytes⟩
  · exact Prod.Lex.left _ _ hrank
  · rcases Nat.lt_or_eq_of_le hrank with hrank | hrank
    · exact Prod.Lex.left _ _ hrank
    · rw [hrank]
      exact Prod.Lex.right _ hbytes

/-- Close both ends of the link. -/
def close (exchange : Exchange) : Exchange :=
  let link := exchange.link.setWire .client (exchange.link.wire .client).close
  { exchange with link := link.setWire .server (link.wire .server).close }

/-- The summary of an exchange, or the failure that is reported. -/
def verdict (config : Config) (exchange : Exchange) : Result Summary :=
  match exchange.server.result, exchange.client.result with
  | .ok server, .ok client => .ok { suite := config.suite, client, server }
  | .ok _, .error e => .error e
  | .error e, .ok _ => .error e
  | .error e, .error clientError =>
    match e.family with
    | .protocol | .system => .error clientError
    | _ => .error e

/-- What an exchange leaves behind. -/
structure Report where
  result : Result Summary
  clientNotes : List Note := []
  serverNotes : List Note := []
  log : KeyLog

/-- Run a whole exchange with a key log. -/
def perform (config : Config) (log : KeyLog) : Report :=
  match start config log with
  | .error e => { result := .error e, log }
  | .ok (exchange, hello) =>
    let ended := (run config hello exchange).close
    { result := verdict config ended
      clientNotes := ended.client.notes
      serverNotes := ended.server.notes
      log := ended.client.session.log }

end Exchange

end RecordLayer
