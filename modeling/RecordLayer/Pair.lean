import RecordLayer.Connection

/-!
# Pairs

Two transports at the two ends of one link, which share one key log.

`Pair.Call` lists everything that a caller can do to one of the transports,
and `Pair.perform` does it.
-/

namespace RecordLayer

/-- Two connected transports. -/
structure Pair where
  client : Transport
  server : Transport
  link : Link := {}
  log : KeyLog := {}
deriving DecidableEq, Repr

namespace Pair

/-- The transport of a side. -/
def transport (pair : Pair) : Side → Transport
  | .client => pair.client
  | .server => pair.server

/-- What one side sees of a pair. -/
def connection (pair : Pair) (side : Side) : Connection :=
  { transport := pair.transport side, log := pair.log, wire := pair.link.wire side }

/-- The pair after one side has changed what it sees. -/
def setConnection (pair : Pair) (side : Side) (connection : Connection) : Pair :=
  let link := pair.link.setWire side connection.wire
  match side with
  | .client => { pair with client := connection.transport, link, log := connection.log }
  | .server => { pair with server := connection.transport, link, log := connection.log }

/-- Work on what one side sees. -/
def on {α : Type} (side : Side) : Act Connection α → Act Pair α :=
  Act.focus (·.connection side) (·.setConnection side)

/-! ## Calls -/

/-- A field of an epoch with the value that is assigned to it unchecked. -/
inductive Assignment where
  | level (n : Int)
  | suite (n : Int)
  | secret (bytes : Bytes)
deriving DecidableEq, Repr

/-- The epoch after an assignment. -/
def Assignment.apply (assignment : Assignment) (epoch : Epoch) : Epoch :=
  match assignment with
  | .level n => { epoch with level := n }
  | .suite n => { epoch with suite := n }
  | .secret bytes => { epoch with secret := bytes }

/-- Something that a caller does to one transport. -/
inductive Call where
  | install (direction : Direction) (level : Code) (suite : Int) (secret : Secret)
  | setLevel (direction : Direction) (level : Code)
  | assign (direction : Direction) (assignment : Assignment)
  /-- Start or stop skipping early data. -/
  | skip (value : Bool)
  | write (type : Code) (data : Bytes)
  | read
  /-- Write bytes to the stream as they are. -/
  | raw (bytes : Bytes)
  /-- Use the stream other than by records. -/
  | unstructured (method : String)
  | close
  /-- From now on, read at most so many bytes at a time. -/
  | limit (count : Option Nat)
  /-- From now on, fail as told. -/
  | fault (direction : Direction) (fault : Option Fault)
deriving DecidableEq, Repr

/-- What a call gives back. -/
inductive Answer where
  | nothing
  | count (n : Nat)
  | delivery (delivery : Delivery)
deriving DecidableEq, Repr

/-- Change what is special about this end of the link. -/
def onPort (f : Port → Port) : Act Connection Unit :=
  Act.modify fun connection =>
    { connection with wire := { connection.wire with port := f connection.wire.port } }

/-- Change the transport alone. -/
def change (f : Transport → Transport) : Act Connection Unit :=
  Connection.onTransport (Act.modify f)

/-- An action without a result, as an answer. -/
def answerNothing (action : Act Connection Unit) : Act Connection Answer := do
  action
  return .nothing

/-- What a call does to the connection it is made on. -/
def Call.act : Call → Act Connection Answer
  | .install direction level suite secret =>
    answerNothing (Connection.onEndpoint (Endpoint.install direction level suite secret))
  | .setLevel direction level =>
    answerNothing (Connection.onEndpoint (Endpoint.setLevel direction level))
  | .assign direction assignment =>
    answerNothing (change fun transport =>
      transport.setEpoch direction (assignment.apply (transport.epoch direction)))
  | .skip value => answerNothing (change fun transport => { transport with skipping := value })
  | .write type data => do return .count (← Connection.writeRecord type data)
  | .read => do return .delivery (← Connection.readRecord)
  | .raw bytes => answerNothing (Connection.sendRaw bytes)
  | .unstructured method => Act.fail (.unstructuredAccess method)
  | .close => answerNothing Connection.close
  | .limit count => answerNothing (onPort fun port => { port with limit := count })
  | .fault .read f => answerNothing (onPort fun port => { port with readFault := f })
  | .fault .write f => answerNothing (onPort fun port => { port with writeFault := f })

/-- Make a call on one side's transport. -/
def perform (side : Side) (call : Call) : Act Pair Answer :=
  on side call.act

end Pair

end RecordLayer
