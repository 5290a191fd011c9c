import SoleKey.Mpint

set_option autoImplicit false

namespace SoleKey

inductive PublicKey where
  | dsa (p q g y : Bytes)
  | ecdsa (curve : Curve) (point : Bytes)
  | ed25519 (key : Bytes)
  | rsa (e n : Bytes)
  | skEcdsa (point : Bytes) (application : String)
  | skEd25519 (key : Bytes) (application : String)
  | other (name : String) (data : Bytes)
  deriving DecidableEq, Repr

-- The point need not lie on its curve.
def pointCurve (point : Bytes) : Except FormatError Curve :=
  match point with
  | [] => .error (.wire .length)
  | tag :: rest =>
    if tag = 2 ∨ tag = 3 then
      match Curve.ofFieldSize? rest.length with
      | some curve => .ok curve
      | none => .error (.wire .length)
    else if tag = 4 then
      match Curve.ofFieldSize? (rest.length / 2) with
      | some curve => if rest.length = 2 * curve.fieldSize then .ok curve else .error .curvePoint
      | none => .error (.wire .length)
    else if tag = 0 ∨ tag = 5 then .error .unknownAlgorithm
    else .error .curvePoint

-- The points a security key may hold: the point at infinity and compact points too.
def isSecurityKeyPoint : Bytes -> Bool
  | [] => false
  | tag :: rest =>
    if tag = 0 then rest.isEmpty
    else if tag = 2 ∨ tag = 3 ∨ tag = 5 then rest.length = 32
    else tag = 4 && rest.length = 64

namespace PublicKey

def algorithm : PublicKey -> Algorithm
  | .dsa .. => .dsa
  | .ecdsa curve _ => .ecdsa curve
  | .ed25519 _ => .ed25519
  | .rsa .. => .rsa none
  | .skEcdsa .. => .skEcdsa
  | .skEd25519 .. => .skEd25519
  | .other name _ => .other name

def decodePoint : KeyDecoder (Curve × Bytes) := do
  let curve ← Wire.label Curve.ofName?
  let point ← Wire.bounded 133
  let found ← Decoder.ofExcept (pointCurve point)
  if found = curve then return (curve, point) else throw .unknownAlgorithm

def decodeEcdsa (curve : Curve) : KeyDecoder PublicKey := do
  let (found, point) ← decodePoint
  if found = curve then return .ecdsa curve point else throw .unknownAlgorithm

def decodeSkEcdsa : KeyDecoder PublicKey := do
  if (← Wire.label Curve.ofName?) != .p256 then throw .cryptographic
  let point ← Wire.bounded 65
  if !isSecurityKeyPoint point then throw .curvePoint
  return .skEcdsa point (← Wire.text)

def decodeFields : Algorithm -> KeyDecoder PublicKey
  | .dsa => do
    return .dsa (← Mpint.decode) (← Mpint.decode) (← Mpint.decode) (← Mpint.decode)
  | .ecdsa curve => decodeEcdsa curve
  | .ed25519 => do return .ed25519 (← Wire.array 32)
  | .rsa _ => do return .rsa (← Mpint.decode) (← Mpint.decode)
  | .skEcdsa => decodeSkEcdsa
  | .skEd25519 => do return .skEd25519 (← Wire.array 32) (← Wire.text)
  | .other name => do return .other name (← Wire.bytes)

def decode : KeyDecoder PublicKey := do
  decodeFields (← Algorithm.decode)

def decodePrefixed : KeyDecoder PublicKey :=
  Wire.prefixed .wire decode

def encodeFields : PublicKey -> Bytes
  | .dsa p q g y => Mpint.encode p ++ Mpint.encode q ++ Mpint.encode g ++ Mpint.encode y
  | .ecdsa curve point => Wire.putText curve.name ++ Wire.putBytes point
  | .ed25519 key => Wire.putBytes key
  | .rsa e n => Mpint.encode e ++ Mpint.encode n
  | .skEcdsa point application =>
      Wire.putText Curve.p256.name ++ Wire.putBytes point ++ Wire.putText application
  | .skEd25519 key application => Wire.putBytes key ++ Wire.putText application
  | .other _ data => Wire.putBytes data

-- An RSA key may be labelled with any of the RSA signature names; it is always written as `ssh-
-- rsa`.
def encode (key : PublicKey) : Bytes :=
  key.algorithm.encode ++ key.encodeFields

def strings (key : PublicKey) : List Bytes :=
  Text.encode key.algorithm.name ::
    match key with
    | .dsa p q g y => [p, q, g, y]
    | .ecdsa curve point => [Text.encode curve.name, point]
    | .ed25519 key => [key]
    | .rsa e n => [e, n]
    | .skEcdsa point application =>
        [Text.encode Curve.p256.name, point, Text.encode application]
    | .skEd25519 key application => [key, Text.encode application]
    | .other _ data => [data]

def WellFormed : PublicKey -> Prop
  | .dsa p q g y =>
      Mpint.isCanonical p ∧ Mpint.isCanonical q ∧ Mpint.isCanonical g ∧ Mpint.isCanonical y ∧
        p.length ≤ Wire.maxLength ∧ q.length ≤ Wire.maxLength ∧ g.length ≤ Wire.maxLength ∧
        y.length ≤ Wire.maxLength
  | .ecdsa curve point => pointCurve point = .ok curve
  | .ed25519 key => key.length = 32
  | .rsa e n =>
      Mpint.isCanonical e ∧ Mpint.isCanonical n ∧ e.length ≤ Wire.maxLength ∧
        n.length ≤ Wire.maxLength
  | .skEcdsa point application =>
      isSecurityKeyPoint point ∧ (Text.encode application).length ≤ Wire.maxLength
  | .skEd25519 key application =>
      key.length = 32 ∧ (Text.encode application).length ≤ Wire.maxLength
  | .other name data =>
      Algorithm.ofName? name = some (.other name) ∧ (Text.encode name).length ≤ Wire.maxLabel ∧
        data.length ≤ Wire.maxLength

end PublicKey

end SoleKey
