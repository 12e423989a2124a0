import RecordLayer.Error
import RecordLayer.Hash.Sha256
import RecordLayer.Hash.Sha384

/-!
# Cipher suites

The cipher suites of TLS 1.3 that have a key schedule here.  A suite decides
which hash function the key schedule uses.
-/

namespace RecordLayer

/-- A cipher suite of TLS 1.3. -/
inductive CipherSuite where
  | aes128GcmSha256
  | aes256GcmSha384
  | chacha20Poly1305Sha256
deriving DecidableEq, Repr

namespace CipherSuite

/-- The registered number of a suite. -/
def code : CipherSuite → Nat
  | .aes128GcmSha256 => 0x1301
  | .aes256GcmSha384 => 0x1302
  | .chacha20Poly1305Sha256 => 0x1303

/-- The registered name of a suite. -/
def name : CipherSuite → String
  | .aes128GcmSha256 => "TLS_AES_128_GCM_SHA256"
  | .aes256GcmSha384 => "TLS_AES_256_GCM_SHA384"
  | .chacha20Poly1305Sha256 => "TLS_CHACHA20_POLY1305_SHA256"

/-- The hash function of a suite. -/
def hash : CipherSuite → Hash
  | .aes128GcmSha256 => Hash.sha256
  | .aes256GcmSha384 => Hash.sha384
  | .chacha20Poly1305Sha256 => Hash.sha256

/-- The suite with a number. -/
def ofInt? (n : Int) : Option CipherSuite :=
  if n = 0x1301 then some .aes128GcmSha256
  else if n = 0x1302 then some .aes256GcmSha384
  else if n = 0x1303 then some .chacha20Poly1305Sha256
  else none

/-- The suite with a number, which has to be a supported one. -/
def ofInt (n : Int) : Result CipherSuite :=
  match ofInt? n with
  | some suite => .ok suite
  | none => .error (.unsupportedSuite n)

/-- The name of the suite with a number, or else the number in hexadecimal. -/
def nameOf (n : Int) : String :=
  match ofInt? n with
  | some suite => suite.name
  | none => "0x" ++ Text.hexadecimal 4 n

@[simp] theorem ofInt?_code (suite : CipherSuite) : ofInt? suite.code = some suite := by
  cases suite <;> rfl

/-- A digest of any suite is not empty and fits a one-byte length. -/
theorem size_hash (suite : CipherSuite) :
    0 < suite.hash.size ∧ suite.hash.size ≤ 48 := by
  cases suite <;> decide

end CipherSuite

end RecordLayer
