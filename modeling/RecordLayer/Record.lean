import RecordLayer.Field

/-!
# Records

A record is a header of eight bytes, a secret and the plaintext:

* tag (1 byte), encryption level (1), cipher suite (2), length (4), all
  numbers most significant byte first;
* the length covers the secret and the plaintext;
* the secret is the traffic secret of the level, in clear.

`Record.encode` writes a record, `Header.decode` reads its header back, and
`Intake` is the part of a record that has arrived so far.
-/

namespace RecordLayer

/-! ## Types and tags -/

namespace RecordType

/-- The content type to send under a code. -/
def forSending (type : Code) : Result RecordType :=
  match sendable? type with
  | some type => .ok type
  | none => .error (.unsupportedType type)

/-- The content type of a received tag. -/
def ofTag (tag : Int) : Result RecordType :=
  match ofTag? tag with
  | some type => .ok type
  | none => .error (.unknownTag tag)

end RecordType

/-! ## Headers -/

/-- The header of a record. -/
structure Header where
  tag : Int
  level : Int
  suite : Int
  /-- The size of the secret and the plaintext together. -/
  length : Int
deriving DecidableEq, Repr

namespace Header

/-- The number of bytes in a header. -/
def size : Nat := 8

/-- Read a header, which is exactly eight bytes long. -/
def decode : Bytes → Result Header
  | [tag, level, s₁, s₂, n₁, n₂, n₃, n₄] =>
    .ok {
      tag := tag.toNat
      level := level.toNat
      suite := Bytes.bigEndianValue [s₁, s₂]
      length := Bytes.bigEndianValue [n₁, n₂, n₃, n₄] }
  | bytes => .error (.headerSize bytes.length)

/-- The tag as a letter, or in hexadecimal if it is unknown. -/
def tagText (header : Header) : String :=
  match RecordType.ofTag? header.tag with
  | some type => type.letter
  | none => "0x" ++ Text.hexadecimal 2 header.tag

/-- One line about a record. -/
def describe (header : Header) : String :=
  header.tagText ++ " level=" ++ Level.nameOf header.level ++
    " cipher=0x" ++ Text.hexadecimal 4 header.suite ++ s!" len={header.length}"

end Header

/-! ## Records -/

/-- The largest number that a cipher suite field holds. -/
def maxSuite : Int := 0xFFFF

/-- The largest size of a secret and its plaintext. -/
def maxRecordLength : Nat := 0xFFFFFFFF

/-- A record with the secret that stands in front of its plaintext. -/
structure Record where
  tag : Int
  level : Int
  suite : Int
  secret : Bytes
  data : Bytes
deriving DecidableEq, Repr

namespace Record

/-- The size of the secret and the plaintext. -/
def bodySize (record : Record) : Nat :=
  record.secret.length + record.data.length

/-- The header of a record. -/
def header (record : Record) : Header :=
  { tag := record.tag, level := record.level, suite := record.suite, length := record.bodySize }

/-- Write a record.  The suite is checked before the size, and both before
the tag and the level. -/
def encode (record : Record) : Result Bytes := do
  if ¬(0 ≤ record.suite ∧ record.suite ≤ maxSuite) then
    throw (.suiteOutOfRange record.suite)
  if maxRecordLength < record.bodySize then
    throw (.recordTooLarge record.bodySize)
  let tag ← Bytes.field 1 record.tag
  let level ← Bytes.field 1 record.level
  let suite ← Bytes.field 2 record.suite
  let length ← Bytes.field 4 record.bodySize
  return tag ++ (level ++ (suite ++ (length ++ (record.secret ++ record.data))))

end Record

/-! ## Records on arrival -/

/-- The part of a record that has arrived.  While `header` is absent the
bytes belong to the header, then to the body.  They are kept last byte
first. -/
structure Intake where
  header : Option Header := none
  arrived : List UInt8 := []
  /-- How many bytes are still to come before this part is complete. -/
  missing : Nat := Header.size
deriving DecidableEq, Repr

/-- What has come of a record after some more bytes. -/
inductive Arrival where
  /-- More bytes are needed. -/
  | awaiting (intake : Intake)
  /-- The record is complete. -/
  | whole (header : Header) (body : Bytes)
deriving DecidableEq, Repr

namespace Intake

/-- Start on the body of a record.  An empty body is complete at once. -/
def startBody (header : Header) : Arrival :=
  if header.length ≤ 0 then .whole header []
  else .awaiting { header := some header, arrived := [], missing := header.length.toNat }

/-- Take in some of the missing bytes. -/
def feed (intake : Intake) (chunk : Bytes) : Result Arrival :=
  let arrived := chunk.reverseAux intake.arrived
  if chunk.length < intake.missing then
    .ok (.awaiting { intake with arrived, missing := intake.missing - chunk.length })
  else
    match intake.header with
    | some header => .ok (.whole header arrived.reverse)
    | none => (Header.decode arrived.reverse).map startBody

/-- What a failure of the stream means for a record under way: inside a body
every failure is an interrupted body. -/
def interrupted (intake : Intake) (error : StreamError) : Error :=
  match intake.header with
  | some _ => .bodyInterrupted
  | none => .stream error

end Intake

end RecordLayer
