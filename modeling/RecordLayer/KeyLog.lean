import RecordLayer.Act

/-!
# The key log

A file in the NSS key-log form: one line per secret with a label, the client
random and the secret, both in hexadecimal.

The file appears with the first write to it, also if that write has no line,
and it only ever grows.
-/

namespace RecordLayer

/-- One line of the key log. -/
structure KeyLog.Entry where
  label : String
  random : Bytes
  secret : Bytes
deriving DecidableEq, Repr

/-- The text of a line, without its end. -/
def KeyLog.Entry.line (entry : KeyLog.Entry) : String :=
  entry.label ++ " " ++ entry.random.hex ++ " " ++ entry.secret.hex

/-- A key log: whether its file exists, what stands in it, and why it cannot
be used if it cannot. -/
structure KeyLog where
  created : Bool := false
  entries : List KeyLog.Entry := []
  fault : Option FileError := none
deriving DecidableEq, Repr

namespace KeyLog

/-- The text of a list of lines. -/
def textOf (entries : List Entry) : String :=
  entries.foldl (fun out entry => out ++ entry.line ++ "\n") ""

/-- The text of the file, if it exists. -/
def text? (log : KeyLog) : Option String :=
  if log.created then some (textOf log.entries) else none

/-- The label of a secret that `sender` sends with.  There is none at the
initial level, and none for early data from the server. -/
def labelFor (level : Level) (sender : Side) : Option String :=
  match level, sender with
  | .initial, _ => none
  | .earlyData, .client => some "CLIENT_EARLY_TRAFFIC_SECRET"
  | .earlyData, .server => none
  | .handshake, .client => some "CLIENT_HANDSHAKE_TRAFFIC_SECRET"
  | .handshake, .server => some "SERVER_HANDSHAKE_TRAFFIC_SECRET"
  | .application, .client => some "CLIENT_TRAFFIC_SECRET_0"
  | .application, .server => some "SERVER_TRAFFIC_SECRET_0"

/-- The label of a secret at the level of a code. -/
def label? (level : Code) (sender : Side) : Option String :=
  (Level.ofCode? level).bind (labelFor · sender)

/-- The lines for labelled secrets.  A secret without a label and an empty
secret have none. -/
def entriesFor (random : Bytes) (secrets : List (Option String × Bytes)) : List Entry :=
  secrets.filterMap fun
    | (some label, secret) =>
      if label.isEmpty || secret.isEmpty then none else some { label, random, secret }
    | (none, _) => none

/-- Write the lines for labelled secrets to the end of the file. -/
def append (random : Bytes) (secrets : List (Option String × Bytes)) :
    Act KeyLog (List String) := fun log =>
  match log.fault with
  | some fault => { result := .error (.file fault), state := log }
  | none =>
    let entries := entriesFor random secrets
    { result := .ok (entries.map Entry.line)
      state := { log with created := true, entries := log.entries ++ entries } }

end KeyLog

end RecordLayer
