import RecordLayer.Level

/-!
# Record types and tags

A record starts with a tag byte: `H` for handshake messages, `A` for
application data, `L` for alerts.  Alerts are only ever received.
-/

namespace RecordLayer

/-- The content type of a record. -/
inductive RecordType where
  | alert
  | handshake
  | applicationData
deriving DecidableEq, Repr

namespace RecordType

/-- The number of a content type. -/
def code : RecordType → Int
  | .alert => 21
  | .handshake => 22
  | .applicationData => 23

/-- The name of a content type. -/
def name : RecordType → String
  | .alert => "ALERT"
  | .handshake => "HANDSHAKE"
  | .applicationData => "APPLICATION_DATA"

/-- The tag byte of a content type. -/
def tag : RecordType → Int
  | .alert => 76
  | .handshake => 72
  | .applicationData => 65

/-- The letter that is the tag. -/
def letter : RecordType → String
  | .alert => "L"
  | .handshake => "H"
  | .applicationData => "A"

/-- The content type of a received tag. -/
def ofTag? (tag : Int) : Option RecordType :=
  if tag = 72 then some .handshake
  else if tag = 65 then some .applicationData
  else if tag = 76 then some .alert
  else none

/-- The content type to send under a code.  Alerts cannot be sent. -/
def sendable? : Code → Option RecordType
  | .number n => if n = 22 then some .handshake else if n = 23 then some .applicationData else none
  | _ => none

@[simp] theorem ofTag?_tag (type : RecordType) : ofTag? type.tag = some type := by
  cases type <;> rfl

theorem ofTag?_eq_some_iff {tag : Int} {type : RecordType} :
    ofTag? tag = some type ↔ tag = type.tag := by
  constructor
  · intro h
    unfold ofTag? at h
    split at h
    · cases h; assumption
    split at h
    · cases h; assumption
    split at h
    · cases h; assumption
    · cases h
  · rintro rfl
    simp

end RecordType

end RecordLayer
