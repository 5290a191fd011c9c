import SoleKey.Wire

set_option autoImplicit false

namespace SoleKey

inductive Curve where
  | p256
  | p384
  | p521
  deriving DecidableEq, Repr

namespace Curve

def name : Curve -> String
  | .p256 => "nistp256"
  | .p384 => "nistp384"
  | .p521 => "nistp521"

def ofName? : String -> Option Curve
  | "nistp256" => some .p256
  | "nistp384" => some .p384
  | "nistp521" => some .p521
  | _ => none

/-- Bytes of a coordinate, and of a scalar. -/
def fieldSize : Curve -> Nat
  | .p256 => 32
  | .p384 => 48
  | .p521 => 66

def ofFieldSize? : Nat -> Option Curve
  | 32 => some .p256
  | 48 => some .p384
  | 66 => some .p521
  | _ => none

theorem ofName?_name (curve : Curve) : ofName? curve.name = some curve := by
  cases curve <;> rfl

end Curve

inductive RsaHash where
  | sha256
  | sha512
  deriving DecidableEq, Repr

inductive Algorithm where
  | dsa
  | ecdsa (curve : Curve)
  | ed25519
  | rsa (hash : Option RsaHash)
  | skEcdsa
  | skEd25519
  | other (name : String)
  deriving DecidableEq, Repr

def hasNameAndDomain (text : String) : Bool :=
  match text.toList.span (· != '@') with
  | (name, _ :: domain) => !name.isEmpty && !domain.isEmpty && !domain.contains '@'
  | (_, []) => false

def isAscii (text : String) : Bool :=
  text.toList.all (·.toNat < 128)

namespace Algorithm

def name : Algorithm -> String
  | .dsa => "ssh-dss"
  | .ecdsa .p256 => "ecdsa-sha2-nistp256"
  | .ecdsa .p384 => "ecdsa-sha2-nistp384"
  | .ecdsa .p521 => "ecdsa-sha2-nistp521"
  | .ed25519 => "ssh-ed25519"
  | .rsa none => "ssh-rsa"
  | .rsa (some .sha256) => "rsa-sha2-256"
  | .rsa (some .sha512) => "rsa-sha2-512"
  | .skEcdsa => "sk-ecdsa-sha2-nistp256@openssh.com"
  | .skEd25519 => "sk-ssh-ed25519@openssh.com"
  | .other name => name

def isOtherName (text : String) : Bool :=
  isAscii text && Text.byteLength text ≤ 64 && hasNameAndDomain text

def ofName? : String -> Option Algorithm
  | "ssh-dss" => some .dsa
  | "ecdsa-sha2-nistp256" => some (.ecdsa .p256)
  | "ecdsa-sha2-nistp384" => some (.ecdsa .p384)
  | "ecdsa-sha2-nistp521" => some (.ecdsa .p521)
  | "ssh-ed25519" => some .ed25519
  | "ssh-rsa" => some (.rsa none)
  | "rsa-sha2-256" => some (.rsa (some .sha256))
  | "rsa-sha2-512" => some (.rsa (some .sha512))
  | "sk-ecdsa-sha2-nistp256@openssh.com" => some .skEcdsa
  | "sk-ssh-ed25519@openssh.com" => some .skEd25519
  | text => if isOtherName text then some (.other text) else none

def isRsa : Algorithm -> Bool
  | .rsa _ => true
  | _ => false

/-- An RSA key signs with any hash; any other key has exactly one algorithm. -/
def sameFamily (key requested : Algorithm) : Bool :=
  (key.isRsa && requested.isRsa) || key = requested

def decode : Decoder WireError Algorithm :=
  Wire.label ofName?

def encode (algorithm : Algorithm) : Bytes :=
  Wire.putText algorithm.name

end Algorithm

end SoleKey
