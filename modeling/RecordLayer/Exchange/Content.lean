import RecordLayer.Handshake.Message
import RecordLayer.KeySchedule
import RecordLayer.Transport

/-!
# What is sent and what is received in an exchange

The values that both sides of a scripted exchange know beforehand, how a script
takes a handshake message out of a delivered record, and the peer's key share
out of a message.
-/

namespace RecordLayer

/-! ## What is sent -/

/-- The pre-shared key of the scripted exchange: the bytes 0 to 31. -/
def demoPsk : Bytes := (List.range 32).map UInt8.ofNat

/-- The data of the early record with a number. -/
def earlyPayload (index : Nat) : Bytes :=
  asciiBytes (['e', 'a', 'r', 'l', 'y', ' '] ++ Nat.toDigits 10 index)

/-- What the client sends after the handshake. -/
def pingPayload : Bytes := asciiBytes ['p', 'i', 'n', 'g']

/-- What the server adds to what it echoes. -/
def pongSuffix : Bytes := asciiBytes [' ', 'p', 'o', 'n', 'g']

/-- The certificate of the scripted server. -/
def scriptedCertificate : Bytes :=
  asciiBytes ['m', 'o', 'c', 'k', ' ', 'c', 'e', 'r', 't', 'i', 'f', 'i', 'c', 'a', 't', 'e']

/-! ## What is received -/

/-- The first handshake message in a delivered record.  Everything in the
record has to be readable. -/
def Delivery.message (delivery : Delivery) : Result Message := do
  if delivery.type ≠ .handshake then
    throw (.notHandshake delivery.type)
  match ← Message.parse delivery.data with
  | message :: _ => return message
  | [] => throw .byteMissing

/-- The first key share extension of a message, which needs an extension block. -/
def Message.keyShare? (message : Message) : Result (Option Extension) :=
  match message.extensions? with
  | some extensions => .ok (Extension.find? extensions Extension.keyShareType)
  | none => .error .partMissing

/-- The key in a key share extension. -/
def Extension.key : Option Extension → Result Bytes
  | none => .error .extensionMissing
  | some extension =>
    match extension.content with
    | .keyShare _ _ key => .ok key
    | _ => .error .partMissing

end RecordLayer
