import SoleKey.Crypto.DeterministicNonce
import SoleKey.Crypto.Modular

set_option autoImplicit false

namespace SoleKey.Crypto.Rsa

structure PrivateNumbers where
  n : Nat
  e : Nat
  d : Nat
  p : Nat
  deriving DecidableEq, Repr

/-- The name of SHA-512 and the header of its digest, as a padded hash holds them. -/
def digestHeader : Bytes :=
  [0x30, 0x51, 0x30, 0x0d, 0x06, 0x09, 0x60, 0x86, 0x48, 0x01, 0x65, 0x03, 0x04, 0x02, 0x03, 0x05,
    0x00, 0x04, 0x40]

def paddedDigest (size : Nat) (message : Bytes) : Bytes :=
  let content := digestHeader ++ sha512 message
  [0x00, 0x01] ++ List.replicate (size - content.length - 3) 0xff ++ [0x00] ++ content

def byteSize (value : Nat) : Nat :=
  (bitLength value + 7) / 8

-- One prime is used twice, so the modulus of a usable key is its square.
def PrivateNumbers.isUsable (key : PrivateNumbers) : Bool :=
  key.n % 2 = 1 && key.e % 2 = 1 && 3 ≤ key.e && key.e < Nat.pow 2 33 && key.e < key.n &&
    1 < key.p && key.p * key.p = key.n && (key.d * key.e) % (key.p - 1) = 1 % (key.p - 1) &&
    byteSize key.n ≥ 256

-- A signature is released only if the public exponent takes it back.
def sign? (key : PrivateNumbers) (message : Bytes) : Option Bytes :=
  let size := byteSize key.n
  let value := Bytes.toNat (paddedDigest size message)
  let result := powMod key.n value key.d
  if powMod key.n result key.e = value then some (Bytes.ofNat size result) else none

end SoleKey.Crypto.Rsa
