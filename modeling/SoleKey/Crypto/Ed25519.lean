import SoleKey.Crypto.Modular
import SoleKey.Crypto.Sha512

set_option autoImplicit false

namespace SoleKey.Crypto.Ed25519

def prime : Nat := Nat.pow 2 255 - 19

def order : Nat := Nat.pow 2 252 + 27742317777372353535851937790883648493

def coefficient : Nat :=
  37095705934669439343138083508754565189542113879843219016388785533085940283555

structure Point where
  x : Nat
  y : Nat
  z : Nat
  t : Nat
  deriving DecidableEq, Repr

def Point.identity : Point := ⟨0, 1, 1, 0⟩

def basePoint : Point :=
  let x := 15112221349535400772501151409588531511454012693041857206046113283949847762202
  let y := 46316835694926478169428394003475163141307993866256225615783033603165251855960
  ⟨x, y, 1, x * y % prime⟩

def Point.add (left right : Point) : Point :=
  let a := subMod prime left.y left.x * subMod prime right.y right.x % prime
  let b := (left.y + left.x) * (right.y + right.x) % prime
  let c := 2 * left.t * right.t % prime * coefficient % prime
  let d := 2 * left.z * right.z % prime
  let e := subMod prime b a
  let f := subMod prime d c
  let g := d + c
  let h := b + a
  ⟨e * f % prime, g * h % prime, f * g % prime, e * h % prime⟩

def Point.multiply (scalar : Nat) (point : Point) : Point :=
  if scalar = 0 then .identity
  else
    let half := (point.add point).multiply (scalar / 2)
    if scalar % 2 = 1 then half.add point else half
termination_by scalar

/-- The second coordinate with the sign of the first in its top bit. -/
def Point.encode (point : Point) : Bytes :=
  let inverse := invMod prime point.z
  let x := point.x * inverse % prime
  let y := point.y * inverse % prime
  Bytes.ofNatReversed 32 (y + x % 2 * Nat.pow 2 255)

/-- The hash of a seed with the low three bits and the top bit cleared and the next bit set. -/
def clamp (bytes : Bytes) : Nat :=
  let low := Bytes.toNatReversed bytes % Nat.pow 2 254
  low - low % 8 + Nat.pow 2 254

def secretScalar (seed : Bytes) : Nat :=
  clamp ((sha512 seed).take 32)

def publicKey (seed : Bytes) : Bytes :=
  (basePoint.multiply (secretScalar seed)).encode

def sign (seed message : Bytes) : Bytes :=
  let scalar := secretScalar seed
  let key := (basePoint.multiply scalar).encode
  let nonce := Bytes.toNatReversed (sha512 ((sha512 seed).drop 32 ++ message)) % order
  let commitment := (basePoint.multiply nonce).encode
  let challenge := Bytes.toNatReversed (sha512 (commitment ++ key ++ message)) % order
  commitment ++ Bytes.ofNatReversed 32 ((nonce + challenge * scalar) % order)

end SoleKey.Crypto.Ed25519
