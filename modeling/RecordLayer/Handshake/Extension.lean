import RecordLayer.Field

/-!
# Extensions

An extension is a type and a body, each with two bytes in front: the type
itself and the size of the body.  Three types are understood further:

* `supported_versions`, a list of versions when offered and one version when
  answered;
* `key_share`, where the first share is taken;
* `early_data`, which is empty.

`Extension.parse` never fails.  A body that is cut short, or too short to be
understood, gives an extension without content.
-/

namespace RecordLayer

/-- Whether an extension block makes an offer, as in a ClientHello, or
answers one, as in a ServerHello. -/
inductive Extension.Form where
  | offer
  | answer
deriving DecidableEq, Repr

/-- What is understood of the body of an extension. -/
inductive Extension.Content where
  | plain
  | offeredVersions (versions : List Nat)
  | chosenVersion (version : Nat)
  /-- The group of a key share, the announced size of the key, and the key
  as far as it is there. -/
  | keyShare (group size : Nat) (key : Bytes)
deriving DecidableEq, Repr

/-- An extension as it was received. -/
structure Extension where
  type : Nat
  /-- The announced size of the body. -/
  size : Nat
  content : Extension.Content
deriving DecidableEq, Repr

namespace Extension

/-- The type of `early_data`. -/
def earlyDataType : Nat := 42

/-- The type of `supported_versions`. -/
def supportedVersionsType : Nat := 43

/-- The type of `key_share`. -/
def keyShareType : Nat := 51

/-- The group of X25519 keys. -/
def x25519Group : Nat := 29

/-- The version of TLS 1.3. -/
def tls13 : Nat := 0x0304

/-- The name of an extension type. -/
def name (extension : Extension) : String :=
  if extension.type = earlyDataType then "early_data"
  else if extension.type = supportedVersionsType then "supported_versions"
  else if extension.type = keyShareType then "key_share"
  else "unknown(0x" ++ Text.hexadecimal 4 extension.type ++ ")"

/-- The name of a group. -/
def groupName (group : Nat) : String :=
  if group = 23 then "secp256r1"
  else if group = 24 then "secp384r1"
  else if group = 25 then "secp521r1"
  else if group = x25519Group then "x25519"
  else "0x" ++ Text.hexadecimal 4 group

/-- The text of a version. -/
def versionText (version : Nat) : String :=
  "0x" ++ Text.hexadecimal 4 version

/-! ## Writing -/

/-- An extension of any type. -/
def encode (type : Int) (body : Bytes) : Result Bytes := do
  let type ← Bytes.field 2 type
  let body ← Bytes.vector 2 body
  return type ++ body

/-- An extension whose type and body are known to fit. -/
def frame (type : Nat) (body : Bytes) : Bytes :=
  Bytes.bigEndian 2 type ++ (Bytes.bigEndian 2 body.length ++ body)

/-- The version of TLS 1.3, as a list of one when offered. -/
def supportedVersions : Form → Bytes
  | .offer => frame supportedVersionsType (2 :: Bytes.bigEndian 2 tls13)
  | .answer => frame supportedVersionsType (Bytes.bigEndian 2 tls13)

/-- An X25519 key, as a list of one when offered. -/
def keyShare (form : Form) (publicKey : Bytes) : Result Bytes := do
  let key ← Bytes.vector 2 publicKey
  let share := Bytes.bigEndian 2 x25519Group ++ key
  match form with
  | .offer => encode keyShareType (← Bytes.vector 2 share)
  | .answer => encode keyShareType share

/-- The mark of early data. -/
def earlyData : Bytes := frame earlyDataType []

theorem encode_of_lt {type : Nat} {body : Bytes} (ht : type < 65536)
    (hb : body.length < 65536) : encode type body = .ok (frame type body) := by
  simp [encode, Bytes.vector, Bytes.field_of_lt 2 ht,
    Bytes.field_of_lt 2 hb, frame]
  rfl

/-! ## Reading -/

/-- At most `count` two-byte numbers, as far as there are bytes for them. -/
def words : Nat → Bytes → List Nat
  | count + 1, high :: low :: rest => (256 * high.toNat + low.toNat) :: words count rest
  | _, _ => []

/-- The versions in a body.  When offered, the first byte counts the bytes of
the list, and half a version counts as a whole one. -/
def versionsOf : Form → Bytes → Content
  | .answer, high :: low :: _ => .chosenVersion (256 * high.toNat + low.toNat)
  | .offer, size :: rest => .offeredVersions (words ((size.toNat + 1) / 2) rest)
  | _, _ => .plain

/-- The share at the front of a byte string. -/
def shareOf : Bytes → Content
  | g₁ :: g₂ :: n₁ :: n₂ :: rest =>
    let size := Bytes.bigEndianValue [n₁, n₂]
    .keyShare (Bytes.bigEndianValue [g₁, g₂]) size (rest.take size)
  | _ => .plain

/-- What is understood of a body. -/
def contentOf (form : Form) (type : Nat) (body : Bytes) : Content :=
  if type = supportedVersionsType then versionsOf form body
  else if type = keyShareType then
    match form with
    | .offer => shareOf (body.drop 2)
    | .answer => shareOf body
  else .plain

/-- Read a block of extensions.  Fewer than four bytes at the end are ignored. -/
def parse (form : Form) : Bytes → List Extension
  | t₁ :: t₂ :: n₁ :: n₂ :: rest =>
    let type := Bytes.bigEndianValue [t₁, t₂]
    let size := Bytes.bigEndianValue [n₁, n₂]
    { type, size, content := contentOf form type (rest.take size) } ::
      parse form (rest.drop size)
  | _ => []
termination_by bytes => bytes.length
decreasing_by simp; omega

/-- The first extension of a type. -/
def find? (extensions : List Extension) (type : Int) : Option Extension :=
  extensions.find? fun extension => (extension.type : Int) = type

end Extension

end RecordLayer
