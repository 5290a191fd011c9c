import SoleKey.Crypto.Ecdsa
import SoleKey.Crypto.Rsa
import SoleKey.PrivateKey
import SoleKey.Tpm

set_option autoImplicit false

namespace SoleKey

inductive SignFailure where
  | refused
  | format (problem : FormatError)
  deriving DecidableEq, Repr

def SignFailure.message : SignFailure -> String
  | .refused => "signature error"
  | .format problem => "signature error: " ++ problem.message

namespace Keypair

def positive (content : Bytes) : Except SignFailure Nat :=
  match Mpint.positive? content with
  | some digits => .ok (Bytes.toNat digits)
  | none => .error (.format .cryptographic)

def rsaNumbers (n e d p : Bytes) : Except SignFailure Crypto.Rsa.PrivateNumbers := do
  let numbers : Crypto.Rsa.PrivateNumbers :=
    ⟨← positive n, ← positive e, ← positive d, ← positive p⟩
  if numbers.isUsable then return numbers else throw (.format .cryptographic)

def encodePair (curve : Curve) (pair : Crypto.Ecdsa.Signature) : Bytes :=
  let digits (value : Nat) := Mpint.encode (Mpint.ofDigits (Bytes.ofNat curve.fieldSize value))
  digits pair.r ++ digits pair.s

def sign (pair : Keypair) (data : Bytes) : Except SignFailure Signature :=
  match pair with
  | .ed25519 _ seed => .ok ⟨.ed25519, Crypto.Ed25519.sign seed data⟩
  | .ecdsa curve _ scalar =>
    match Crypto.Ecdsa.sign? (Crypto.Ecdsa.parameters curve) (Bytes.toNat scalar) data with
    | some found => .ok ⟨.ecdsa curve, encodePair curve found⟩
    | none => .error .refused
  | .rsa n e d _ p _ => do
    match Crypto.Rsa.sign? (← rsaNumbers n e d p) data with
    | some found => .ok ⟨.rsa (some .sha512), found⟩
    | none => .error .refused
  | .dsa .. | .skEcdsa .. | .skEd25519 .. | .other .. =>
    .error (.format (.unsupportedAlgorithm pair.algorithm))

end Keypair

namespace SoftwareTpm

def sealKey : PrivateKey -> Except TpmError StoredKey
  | .clear check pair comment =>
      .ok ⟨pair.publicKey, comment, PrivateKey.encodeClear check pair comment⟩
  | .encrypted _ => .error (.unsealFailed "passphrase-protected keys are not supported")

def recover (key : StoredKey) : Except TpmError Keypair :=
  match PrivateKey.decode key.sealedPart with
  | .error problem => .error (.unsealFailed problem.message)
  | .ok (.encrypted _) => .error (.unsealFailed "sealed key is passphrase-protected")
  | .ok (.clear _ pair _) =>
    if pair.publicKey = key.publicKey then .ok pair else .error .keyMismatch

def sign (key : StoredKey) (algorithm : Algorithm) (data : Bytes) : Except TpmError Signature := do
  let pair ← recover key
  let signature ← (pair.sign data).mapError fun problem => .signFailed problem.message
  if signature.algorithm = algorithm then return signature
  else throw (.unsupportedAlgorithm algorithm pair.algorithm)

end SoftwareTpm

def softwareTpm : Tpm where
  opens := .ok ()
  signs := SoftwareTpm.sign
  closes := .ok ()

end SoleKey
