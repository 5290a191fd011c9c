import SoleKey.Crypto.Ed25519
import SoleKey.PublicKey

set_option autoImplicit false

namespace SoleKey

inductive Keypair where
  | dsa (p q g y x : Bytes)
  | ecdsa (curve : Curve) (point scalar : Bytes)
  | ed25519 (key seed : Bytes)
  | rsa (n e d inverse p q : Bytes)
  | skEcdsa (point : Bytes) (application : String) (flags : UInt8) (handle reserved : Bytes)
  | skEd25519 (key : Bytes) (application : String) (flags : UInt8) (handle reserved : Bytes)
  | other (name : String) (publicData privateData : Bytes)
  deriving DecidableEq, Repr

namespace Keypair

def publicKey : Keypair -> PublicKey
  | .dsa p q g y _ => .dsa p q g y
  | .ecdsa curve point _ => .ecdsa curve point
  | .ed25519 key _ => .ed25519 key
  | .rsa n e _ _ _ _ => .rsa e n
  | .skEcdsa point application _ _ _ => .skEcdsa point application
  | .skEd25519 key application _ _ _ => .skEd25519 key application
  | .other name publicData _ => .other name publicData

def algorithm (pair : Keypair) : Algorithm :=
  pair.publicKey.algorithm

/-- A scalar has the size of its curve; one zero byte may stand in front of it. -/
def decodeScalar (curve : Curve) : KeyDecoder Bytes := do
  let count ← Wire.length
  Decoder.within count do
    if count = curve.fieldSize + 1 then
      if (← Wire.byte) ≠ 0 then throw .encoding
    Wire.raw curve.fieldSize

def decodeEcdsa (curve : Curve) : KeyDecoder Keypair := do
  let (found, point) ← PublicKey.decodePoint
  let scalar ← decodeScalar found
  if found = curve then return .ecdsa curve point scalar else throw .unknownAlgorithm

-- The public half is written twice and must be the one that the seed gives.
def decodeEd25519 : KeyDecoder Keypair := do
  let key ← Wire.array 32
  let both ← Wire.array 64
  let seed := both.take 32
  if both.drop 32 = key ∧ Crypto.Ed25519.publicKey seed = key then return .ed25519 key seed
  else throw .cryptographic

def decodeSkEcdsa : KeyDecoder Keypair := do
  match ← PublicKey.decodeSkEcdsa with
  | .skEcdsa point application =>
    return .skEcdsa point application (← Wire.byte) (← Wire.bytes) (← Wire.bytes)
  | _ => throw .unknownAlgorithm

def decodeFields : Algorithm -> KeyDecoder Keypair
  | .dsa => do
    return .dsa (← Mpint.decode) (← Mpint.decode) (← Mpint.decode) (← Mpint.decode)
      (← Mpint.decode)
  | .ecdsa curve => decodeEcdsa curve
  | .ed25519 => decodeEd25519
  | .rsa _ => do
    return .rsa (← Mpint.decode) (← Mpint.decode) (← Mpint.decode) (← Mpint.decode)
      (← Mpint.decode) (← Mpint.decode)
  | .skEcdsa => decodeSkEcdsa
  | .skEd25519 => do
    return .skEd25519 (← Wire.array 32) (← Wire.text) (← Wire.byte) (← Wire.bytes) (← Wire.bytes)
  | .other name => do return .other name (← Wire.bytes) (← Wire.bytes)

def decode : KeyDecoder Keypair := do
  decodeFields (← Algorithm.decode)

def encodeScalar (scalar : Bytes) : Bytes :=
  match scalar with
  | first :: _ => Wire.putBytes (if first ≥ 0x80 then 0 :: scalar else scalar)
  | [] => Wire.putBytes []

def encodeFields : Keypair -> Bytes
  | .dsa p q g y x =>
      Mpint.encode p ++ Mpint.encode q ++ Mpint.encode g ++ Mpint.encode y ++ Mpint.encode x
  | .ecdsa curve point scalar =>
      Wire.putText curve.name ++ Wire.putBytes point ++ encodeScalar scalar
  | .ed25519 key seed => Wire.putBytes key ++ Wire.putBytes (seed ++ key)
  | .rsa n e d inverse p q =>
      Mpint.encode n ++ Mpint.encode e ++ Mpint.encode d ++ Mpint.encode inverse ++
        Mpint.encode p ++ Mpint.encode q
  | .skEcdsa point application flags handle reserved =>
      Wire.putText Curve.p256.name ++ Wire.putBytes point ++ Wire.putText application ++ [flags] ++
        Wire.putBytes handle ++ Wire.putBytes reserved
  | .skEd25519 key application flags handle reserved =>
      Wire.putBytes key ++ Wire.putText application ++ [flags] ++ Wire.putBytes handle ++
        Wire.putBytes reserved
  | .other _ publicData privateData => Wire.putBytes publicData ++ Wire.putBytes privateData

def encode (pair : Keypair) : Bytes :=
  pair.algorithm.encode ++ pair.encodeFields

end Keypair

inductive Cipher where
  | clear
  | block (size tagSize : Nat)
  deriving DecidableEq, Repr

namespace Cipher

def ofName? : String -> Option Cipher
  | "none" => some .clear
  | "3des-cbc" => some (.block 8 0)
  | "aes128-cbc" | "aes192-cbc" | "aes256-cbc" => some (.block 16 0)
  | "aes128-ctr" | "aes192-ctr" | "aes256-ctr" => some (.block 16 0)
  | "aes128-gcm@openssh.com" | "aes256-gcm@openssh.com" => some (.block 16 16)
  | "chacha20-poly1305@openssh.com" => some (.block 8 16)
  | _ => none

end Cipher

inductive KeyDerivation where
  | none
  | bcrypt (salt : Bytes) (rounds : Nat)
  deriving DecidableEq, Repr

namespace KeyDerivation

inductive Kind where
  | none
  | bcrypt

def ofName? : String -> Option Kind
  | "none" => some .none
  | "bcrypt" => some .bcrypt
  | _ => Option.none

def decode : KeyDecoder KeyDerivation := do
  match ← Wire.label ofName? with
  | .none => if (← Wire.length) = 0 then return .none else throw .unknownAlgorithm
  | .bcrypt => Wire.prefixed .wire do return .bcrypt (← Wire.bytes) (← Wire.word32)

end KeyDerivation

inductive PrivateKey where
  | clear (check : Nat) (pair : Keypair) (comment : String)
  | encrypted (publicKey : PublicKey)
  deriving DecidableEq, Repr

namespace PrivateKey

def header : Bytes :=
  Text.encode "openssh-key-v1" ++ [0]

-- A key in the clear is padded as if for a cipher with blocks of this size.
def blockSize : Nat := 8

def publicKey : PrivateKey -> PublicKey
  | .clear _ pair _ => pair.publicKey
  | .encrypted publicKey => publicKey

def padding (count : Nat) : Bytes :=
  (List.range count).map fun step => UInt8.ofNat (step + 1)

-- The input was cut short if bytes are `missing`.
def skipPadding (missing : Nat) : KeyDecoder Unit := do
  let rest ← get
  if missing ≠ 0 ∨ rest.length ≥ blockSize then throw (.wire .length)
  if rest ≠ padding rest.length then throw .encoding
  set ([] : Bytes)

def decodeBody (publicKey : PublicKey) (missing : Nat) : KeyDecoder PrivateKey := do
  let check ← Wire.word32
  if (← Wire.word32) ≠ check then throw .cryptographic
  let pair ← Keypair.decode
  if pair.publicKey ≠ publicKey then throw .publicKeyMismatch
  let comment ← Wire.text
  skipPadding missing
  return .clear check pair comment

def decodeClear (publicKey : PublicKey) : KeyDecoder PrivateKey := do
  let count ← Wire.length
  if count % blockSize ≠ 0 then throw (.wire .length)
  let available := (← get).take count
  Decoder.within count (decodeBody publicKey (count - available.length))

def decodeEncrypted (publicKey : PublicKey) (size tagSize : Nat) : KeyDecoder PrivateKey := do
  let content ← Wire.bytes
  if content.length % size ≠ 0 then throw .cryptographic
  let _tag ← Wire.raw tagSize
  return .encrypted publicKey

def decodeFields : KeyDecoder PrivateKey := do
  if (← Wire.raw header.length) ≠ header then throw .encoding
  let cipher ← Wire.label Cipher.ofName?
  let derivation ← KeyDerivation.decode
  if (← Wire.length) ≠ 1 then throw (.wire .length)
  let publicKey ← PublicKey.decodePrefixed
  match cipher with
  | .block size tagSize => decodeEncrypted publicKey size tagSize
  | .clear =>
    if derivation ≠ .none then throw .cryptographic
    decodeClear publicKey

def decode (input : Bytes) : Except FormatError PrivateKey := do
  let (key, rest) ← decodeFields.run input
  if rest.isEmpty then return key else throw (.wire (.trailingData rest.length))

def encodeBody (check : Nat) (pair : Keypair) (comment : String) : Bytes :=
  let content :=
    Wire.putWord32 check ++ Wire.putWord32 check ++ pair.encode ++ Wire.putText comment
  content ++ padding ((blockSize - content.length % blockSize) % blockSize)

def encodeClear (check : Nat) (pair : Keypair) (comment : String) : Bytes :=
  header ++ Wire.putText "none" ++ Wire.putText "none" ++ Wire.putBytes [] ++ Wire.putWord32 1 ++
    Wire.putBytes pair.publicKey.encode ++ Wire.putBytes (encodeBody check pair comment)

end PrivateKey

end SoleKey
