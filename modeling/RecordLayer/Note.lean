import RecordLayer.Record

/-!
# Notes

Every action notes what it has done.  A note is data; `Note.text` is the line
that debug output shows for it.
-/

namespace RecordLayer

/-- The secrets of the key schedule that are noted. -/
inductive SecretName where
  | early
  | clientEarlyTraffic
  | handshake
  | clientHandshakeTraffic
  | serverHandshakeTraffic
  | master
  | clientApplicationTraffic
  | serverApplicationTraffic
deriving DecidableEq, Repr

/-- What debug output calls a secret. -/
def SecretName.text : SecretName → String
  | .early => "Early Secret"
  | .clientEarlyTraffic => "Client Early Traffic Secret"
  | .handshake => "Handshake Secret"
  | .clientHandshakeTraffic => "Client HS Traffic Secret"
  | .serverHandshakeTraffic => "Server HS Traffic Secret"
  | .master => "Master Secret"
  | .clientApplicationTraffic => "Client App Traffic Secret"
  | .serverApplicationTraffic => "Server App Traffic Secret"

/-- What an action has done. -/
inductive Note where
  /-- A new epoch was installed, with a secret of `size` bytes. -/
  | installed (direction : Direction) (level suite : Int) (size : Nat)
  | sent (record : Record)
  | received (header : Header)
  /-- A record of early data was dropped. -/
  | skipped (header : Header)
  | rejected (header : Header) (cause : Error)
  /-- A handshake message was read. -/
  | messageRead (name : String) (size : Nat)
  | derived (name : SecretName) (secret : Bytes)
deriving DecidableEq, Repr

namespace Note

/-- The line of debug output for a note. -/
def text : Note → String
  | .installed direction level suite size =>
    "    ✓ " ++ direction.name ++ " keys installed: level=" ++ Level.nameOf level ++
      " cipher=0x" ++ Text.hexadecimal 4 suite ++ s!" secret={size} bytes"
  | .sent record => "    → " ++ record.header.describe
  | .received header => "    ← " ++ header.describe
  | .skipped header => "    ↷ Skipped early data: " ++ header.describe
  | .rejected header cause => "    ✗ Rejected " ++ header.describe ++ ": " ++ cause.message
  | .messageRead name size => "    ✓ Parsed " ++ name ++ s!" ({size} bytes)"
  | .derived name secret => "    " ++ name.text ++ ": " ++ secret.hex

/-- The debug output for notes, a line each; without `debug` there is none. -/
def render (debug : Bool) (notes : List Note) : String :=
  if debug then notes.foldl (fun out note => out ++ note.text ++ "\n") "" else ""

end Note

end RecordLayer
