import SoleKey.Algorithm

set_option autoImplicit false

namespace SoleKey

inductive FormatError where
  | wire (problem : WireError)
  | unknownAlgorithm
  | unsupportedAlgorithm (algorithm : Algorithm)
  | cryptographic
  | curvePoint
  | encoding
  | publicKeyMismatch
  deriving DecidableEq, Repr

def FormatError.message : FormatError -> String
  | .wire problem => problem.message
  | .unknownAlgorithm => "unknown algorithm"
  | .unsupportedAlgorithm algorithm => "unsupported algorithm: " ++ algorithm.name
  | .cryptographic => "cryptographic error"
  | .curvePoint => "ECDSA encoding error: elliptic curve point encoding error"
  | .encoding => "format encoding error"
  | .publicKeyMismatch => "public key is incorrect"

abbrev KeyDecoder (α : Type) := Decoder FormatError α

instance : MonadLift (Decoder WireError) (Decoder FormatError) where
  monadLift := Decoder.mapError FormatError.wire

end SoleKey
