import RecordLayer.Bytes
import RecordLayer.RecordType
import RecordLayer.Side

/-!
# Errors

What can go wrong, as causes.  `Error.message` gives the text of each cause
and `Error.family` groups the causes by where they come from.
-/

namespace RecordLayer

/-- What can go wrong on a stream. -/
inductive StreamError where
  /-- This end of the stream has been closed. -/
  | badDescriptor
  /-- The peer accepts no more data. -/
  | brokenPipe
  | connectionReset
  | timedOut
  /-- Nothing has arrived yet. -/
  | wouldBlock
  /-- The stream ended before a record was complete. -/
  | ended
deriving DecidableEq, Repr

/-- The text of a stream error. -/
def StreamError.message : StreamError → String
  | .badDescriptor => "[Errno 9] Bad file descriptor"
  | .brokenPipe => "[Errno 32] Broken pipe"
  | .connectionReset => "[Errno 104] Connection reset by peer"
  | .timedOut => "timed out"
  | .wouldBlock => "[Errno 11] Resource temporarily unavailable"
  | .ended => "Connection closed while receiving record"

/-- Whether the connection itself is lost. -/
def StreamError.losesConnection : StreamError → Bool
  | .brokenPipe | .connectionReset | .ended => true
  | .badDescriptor | .timedOut | .wouldBlock => false

/-- Why the key-log file cannot be used. -/
inductive FileError where
  | missing (path : String)
  | denied (path : String)
  /-- The path leads through a file. -/
  | notDirectory (path : String)
  | isDirectory (path : String)
  | nameTooLong (path : String)
  /-- The file takes no more data. -/
  | noSpace
  /-- The path holds a NUL character. -/
  | nulInPath
deriving DecidableEq, Repr

/-- The text of a file error. -/
def FileError.message : FileError → String
  | .missing path => "[Errno 2] No such file or directory: " ++ Text.quoted path
  | .denied path => "[Errno 13] Permission denied: " ++ Text.quoted path
  | .notDirectory path => "[Errno 20] Not a directory: " ++ Text.quoted path
  | .isDirectory path => "[Errno 21] Is a directory: " ++ Text.quoted path
  | .nameTooLong path => "[Errno 36] File name too long: " ++ Text.quoted path
  | .noSpace => "[Errno 28] No space left on device"
  | .nulInPath => "embedded null byte"

/-- The cause of a failure. -/
inductive Error where
  /-- The body of a record did not arrive in full. -/
  | bodyInterrupted
  | levelMismatch (received expected : Int)
  | suiteMismatch (received expected : Int)
  /-- The body is shorter than the expected secret. -/
  | shorterThanSecret
  | secretMismatch (received expected : Bytes)
  | unknownTag (tag : Int)
  | unsupportedType (type : Code)
  /-- A record of another type stands where a handshake record was due. -/
  | notHandshake (got : RecordType)
  | unexpectedMessage (name : String)
  /-- The verify data in the Finished message of a side is wrong. -/
  | finishedMismatch (sender : Side)
  /-- The stream was used other than by records. -/
  | unstructuredAccess (method : String)
  | stream (error : StreamError)
  | file (error : FileError)
  | badLevel (level : Code)
  | suiteOutOfRange (suite : Int)
  /-- The length of a record does not fit its four bytes. -/
  | recordTooLarge (size : Nat)
  | headerSize (size : Nat)
  | unsupportedSuite (suite : Int)
  /-- More output was asked of a key derivation than it can give. -/
  | outputTooLong (limit : Nat)
  | noSecrets (level : Code)
  | handshakeSecretMissing
  | publicKeySize
  | sharedSecretZero
  | negativeEarlyData (n : Int)
  | secretNotBytes
  /-- A secret that was given back cannot be read any more. -/
  | secretReleased
  /-- A number does not fit its field, or a field is cut short. -/
  | badField
  /-- A byte past the end was asked for. -/
  | byteMissing
  /-- A part of a message that was not there was asked for. -/
  | partMissing
  /-- An extension that was not there was asked for. -/
  | extensionMissing
  /-- An option that needs a number was left with nothing. -/
  | numberMissing
deriving DecidableEq, Repr

namespace Error

/-- Where a failure comes from. -/
inductive Family where
  /-- A record or a handshake message broke the rules. -/
  | protocol
  /-- The stream was used other than by records. -/
  | access
  /-- The stream or the key-log file failed. -/
  | system
  /-- An argument is out of range. -/
  | argument
  /-- A value could not be packed, unpacked or found. -/
  | malformed
deriving DecidableEq, Repr

/-- The family of a cause. -/
def family : Error → Family
  | .bodyInterrupted | .levelMismatch .. | .suiteMismatch .. | .shorterThanSecret
  | .secretMismatch .. | .unknownTag _ | .unsupportedType _ | .notHandshake _
  | .unexpectedMessage _ | .finishedMismatch _ => .protocol
  | .unstructuredAccess _ => .access
  | .stream _ => .system
  | .file .nulInPath => .argument
  | .file _ => .system
  | .badLevel _ | .suiteOutOfRange _ | .recordTooLarge _ | .headerSize _ | .unsupportedSuite _
  | .outputTooLong _ | .noSecrets _ | .handshakeSecretMissing | .publicKeySize | .sharedSecretZero
  | .negativeEarlyData _ | .secretReleased => .argument
  | .secretNotBytes | .badField | .byteMissing | .partMissing | .extensionMissing
  | .numberMissing => .malformed

/-- The text of a cause. -/
def message : Error → String
  | .bodyInterrupted => "error reading record"
  | .levelMismatch received expected =>
    s!"received level {received} does not match expected {expected}"
  | .suiteMismatch received expected =>
    s!"received cipher suite {received} does not match expected {expected}"
  | .shorterThanSecret => "input length too short"
  | .secretMismatch received expected =>
    "secrets don't match: got " ++ received.hex ++ " but expected " ++ expected.hex
  | .unknownTag tag => s!"unknown type {tag}"
  | .unsupportedType type => "unsupported record type " ++ type.display
  | .notHandshake got => "expected handshake record, got " ++ got.name
  | .unexpectedMessage name => "unexpected handshake message " ++ name
  | .finishedMismatch .server => "server Finished verify_data mismatch"
  | .finishedMismatch .client => "client Finished verify_data mismatch"
  | .unstructuredAccess method => "unexpected call to " ++ method
  | .stream error => error.message
  | .file error => error.message
  | .badLevel level => level.quoted ++ " is not a valid EncryptionLevel"
  | .suiteOutOfRange suite => s!"cipher suite out of range: {suite}"
  | .recordTooLarge size => s!"record too large: {size} bytes"
  | .headerSize size => s!"Header must be exactly 8 bytes, got {size}"
  | .unsupportedSuite suite => "Unsupported cipher suite: 0x" ++ Text.hexadecimal 4 suite
  | .outputTooLong limit => s!"Cannot derive keys larger than {limit} octets."
  | .noSecrets level => "No secrets derived for level " ++ level.display
  | .handshakeSecretMissing => "Handshake secret must be computed before application secrets"
  | .publicKeySize => "An X25519 public key is 32 bytes long"
  | .sharedSecretZero => "Error computing shared key."
  | .negativeEarlyData n => s!"early_data must be >= 0, got {n}"
  | .secretNotBytes => "secret must be bytes"
  | .secretReleased => "operation forbidden on released memoryview object"
  | .badField => "a number does not fit its field"
  | .byteMissing => "a byte past the end was asked for"
  | .partMissing => "the message has no such part"
  | .extensionMissing => "the message has no such extension"
  | .numberMissing => "an option that needs a number was left with nothing"

end Error

/-- The result of a check or of a computation that can fail. -/
abbrev Result (α : Type) := Except Error α

/-- A computation goes on with the result of another one. -/
theorem Result.ok_bind {α β : Type} (a : α) (f : α → Result β) :
    ((Except.ok a : Result α) >>= f) = f a := rfl

/-- What a list is turned into one by one, if its first element and the others
can be. -/
theorem Result.exists_of_mapM_cons {α β : Type} {f : α → Result β} {a : α} {list : List α}
    {results : List β} (h : (a :: list).mapM f = .ok results) :
    ∃ b later, f a = .ok b ∧ list.mapM f = .ok later ∧ results = b :: later := by
  rw [List.mapM_cons] at h
  cases hfirst : f a with
  | error cause => rw [hfirst] at h; cases h
  | ok b =>
  cases hlater : list.mapM f with
  | error cause => rw [hfirst, hlater] at h; cases h
  | ok later =>
    rw [hfirst, hlater] at h
    exact ⟨b, later, rfl, rfl, (Except.ok.inj h).symm⟩

end RecordLayer
