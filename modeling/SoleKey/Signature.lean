import SoleKey.PublicKey

set_option autoImplicit false

namespace SoleKey

structure Signature where
  algorithm : Algorithm
  data : Bytes
  deriving DecidableEq, Repr

structure SignatureFlags where
  bits : UInt32
  deriving DecidableEq, Repr

namespace SignatureFlags

def empty : SignatureFlags := ⟨0⟩

def rsaSha256 : SignatureFlags := ⟨2⟩

def rsaSha512 : SignatureFlags := ⟨4⟩

def contains (flags other : SignatureFlags) : Bool :=
  flags.bits &&& other.bits = other.bits

def summary (flags : SignatureFlags) : String :=
  "SignatureFlags(" ++ toString flags.bits ++ ")"

end SignatureFlags

/-- RSA keys take their hash from the flags, SHA-512 first; other keys have one algorithm. -/
def PublicKey.signatureAlgorithm (key : PublicKey) (flags : SignatureFlags) : Algorithm :=
  match key.algorithm with
  | .rsa _ =>
    if flags.contains .rsaSha512 then .rsa (some .sha512)
    else if flags.contains .rsaSha256 then .rsa (some .sha256)
    else .rsa none
  | single => single

namespace Signature

def skipComponent (size : Nat) : KeyDecoder Unit := do
  match Mpint.positive? (← Mpint.decode) with
  | none => throw .cryptographic
  | some digits => if digits.length > size then throw (.wire .length)

def checkPair (curve : Curve) (trailer : Nat) (data : Bytes) : Except FormatError Unit := do
  let decoder : KeyDecoder Unit := do
    skipComponent curve.fieldSize
    skipComponent curve.fieldSize
  let (_, rest) ← decoder.run data
  if rest.length = trailer then return () else throw (.wire .length)

def check (algorithm : Algorithm) (data : Bytes) : Except FormatError Unit :=
  let sized (fits : Bool) : Except FormatError Unit :=
    if fits then .ok () else .error (.wire .length)
  match algorithm with
  | .dsa => sized (data.length = 40)
  | .ecdsa curve => checkPair curve 0 data
  | .ed25519 => sized (data.length = 64)
  | .rsa hash => sized hash.isSome
  | .skEcdsa => checkPair .p256 5 data
  | .skEd25519 => sized (data.length = 69)
  | .other _ => sized (!data.isEmpty)

def make (algorithm : Algorithm) (data : Bytes) : Except FormatError Signature := do
  check algorithm data
  return ⟨algorithm, data⟩

/-- The flags and counter that a security key adds to its signature. -/
def trailerSize : Nat := 5

-- The trailer of an Ed25519 security key follows the data; elsewhere all is data.
def encode (signature : Signature) : Bytes :=
  let inside :=
    if signature.algorithm = .skEd25519 then signature.data.length - trailerSize
    else signature.data.length
  signature.algorithm.encode ++ Wire.putBytes (signature.data.take inside) ++
    signature.data.drop inside

end Signature

end SoleKey
