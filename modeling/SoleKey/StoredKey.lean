import SoleKey.PublicKey

set_option autoImplicit false

namespace SoleKey

structure StoredKey where
  publicKey : PublicKey
  comment : String
  sealedPart : Bytes
  deriving DecidableEq, Repr

structure Identity where
  key : PublicKey
  comment : String
  deriving DecidableEq, Repr

def Identity.format (identity : Identity) : String :=
  identity.key.algorithm.name

def Identity.blob (identity : Identity) : Bytes :=
  identity.key.encode

inductive RecordError where
  | header (found : String)
  | trailingData (count : Nat)
  | wire (problem : WireError)
  | publicKey (problem : FormatError)
  deriving DecidableEq, Repr

namespace StoredKey

def header : String := "tpm-ssh-agent-key-v1"

def identity (key : StoredKey) : Identity :=
  ⟨key.publicKey, key.comment⟩

def decodeFields : Decoder RecordError StoredKey := do
  let found ← Wire.text.mapError .wire
  if found ≠ header then throw (.header found)
  let blob ← Wire.bytes.mapError .wire
  let publicKey ← Decoder.ofExcept ((PublicKey.decode.value blob).mapError .publicKey)
  let comment ← Wire.text.mapError .wire
  let sealedPart ← Wire.bytes.mapError .wire
  return ⟨publicKey, comment, sealedPart⟩

def decode (input : Bytes) : Except RecordError StoredKey := do
  let (key, rest) ← decodeFields.run input
  if rest.isEmpty then return key else throw (.trailingData rest.length)

def write (key : StoredKey) : Except RecordError Bytes := do
  let blob ← (Wire.putStrings key.publicKey.strings).mapError .wire
  (Wire.putStrings [Text.encode header, blob, Text.encode key.comment, key.sealedPart]).mapError
    .wire

def encode (key : StoredKey) : Bytes :=
  Wire.putText header ++ Wire.putBytes key.publicKey.encode ++ Wire.putText key.comment ++
    Wire.putBytes key.sealedPart

end StoredKey

end SoleKey
