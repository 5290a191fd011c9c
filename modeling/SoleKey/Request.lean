import SoleKey.Call
import SoleKey.Certificate

set_option autoImplicit false

namespace SoleKey

inductive RequestError where
  | wire (problem : WireError)
  | key (problem : FormatError)
  | command (number : UInt8)
  deriving DecidableEq, Repr

def RequestError.message : RequestError -> String
  | .wire problem => "SSH encoding error: " ++ problem.message
  | .key problem => "SSH key error: " ++ problem.message
  | .command number => "Command not supported (" ++ toString number ++ ")"

inductive Request where
  | list
  | sign (key : PublicKey) (data : Bytes) (flags : SignatureFlags)
  | add (offer : Offer)
  | addConstrained (offer : Offer)
  | remove (key : PublicKey)
  | removeAll
  | smartcard (id pin : String)
  | lock (passphrase : String)
  | unlock (passphrase : String)
  | extension (asked : Extension)
  deriving DecidableEq, Repr

namespace Request

abbrev Reader (α : Type) := Decoder RequestError α

def wire {α : Type} (decoder : Decoder WireError α) : Reader α :=
  decoder.mapError .wire

def key {α : Type} (decoder : KeyDecoder α) : Reader α :=
  decoder.mapError .key

def skipPrivateHalf : Algorithm -> KeyDecoder Unit
  | .dsa => do let _ ← Mpint.decode
  | .ecdsa curve => do let _ ← Keypair.decodeScalar curve
  | .ed25519 => do
    let _ ← Keypair.decodeEd25519
  | .rsa _ => do
    let _ ← Mpint.decode
    let _ ← Mpint.decode
    let _ ← Mpint.decode
    let _ ← Mpint.decode
  | .skEcdsa | .skEd25519 => do
    let _ ← Wire.text
    let _ ← Wire.byte
    let _ ← Wire.bytes
    let _ ← Wire.bytes
  | .other _ => do let _ ← Wire.bytes

def decodeOffer : Reader Offer := do
  let name ← wire Wire.text
  match Certificate.algorithm? name with
  | some algorithm =>
    Wire.prefixed .wire (key Certificate.decode)
    key (skipPrivateHalf algorithm)
    return .certificate name (← wire Wire.text)
  | none =>
    match Algorithm.ofName? name with
    | some algorithm =>
      let pair ← key (Keypair.decodeFields algorithm)
      return .key pair (← wire Wire.text)
    | none => throw (.wire (.label name))

def skipConstraint : Reader Unit := do
  match ← wire Wire.byte with
  | 1 => let _ ← wire Wire.word32
  | 2 => return ()
  | 255 =>
    let _ ← wire Wire.text
    let _ ← wire Wire.bytes
  | _ => throw (.key .unknownAlgorithm)

def skipConstraints : Reader Unit := do
  Certificate.toEnd skipConstraint (← get).length

def decodeSign : Reader Request := do
  let requested ← key PublicKey.decodePrefixed
  let data ← wire Wire.bytes
  let flags ← wire Wire.word32
  return .sign requested data ⟨UInt32.ofNat flags⟩

def decodeSmartcard : Reader Request := do
  return .smartcard (← wire Wire.text) (← wire Wire.text)

def decodeAddConstrained : Reader Request := do
  let offer ← decodeOffer
  skipConstraints
  return .addConstrained offer

def decodeSmartcardConstrained : Reader Request := do
  let request ← decodeSmartcard
  skipConstraints
  return request

def decodeExtension : Reader Request := do
  let name ← wire Wire.text
  let details ← get
  set ([] : Bytes)
  return .extension ⟨name, details⟩

def decodeFields (command : UInt8) : Reader Request :=
  match command with
  | 11 => return .list
  | 13 => decodeSign
  | 17 => do return .add (← decodeOffer)
  | 18 => do return .remove (← key PublicKey.decodePrefixed)
  | 19 => return .removeAll
  | 20 | 21 => decodeSmartcard
  | 22 => do return .lock (← wire Wire.text)
  | 23 => do return .unlock (← wire Wire.text)
  | 25 => decodeAddConstrained
  | 26 => decodeSmartcardConstrained
  | 27 => decodeExtension
  | _ => throw (.command command)

def reader : Reader Request := do
  decodeFields (← wire Wire.byte)

-- Bytes that follow a whole request are ignored, except that an extension takes all that is left.
def decode (body : Bytes) : Except RequestError Request :=
  reader.value body

def call? : Request -> Option Call
  | .list => some .list
  | .sign key data flags => some (.sign key data flags)
  | .add offer | .addConstrained offer => some (.add offer)
  | .remove key => some (.remove key)
  | .removeAll => some .removeAll
  | .smartcard .. => none
  | .lock passphrase => some (.lock passphrase)
  | .unlock passphrase => some (.unlock passphrase)
  | .extension asked => some (.extension asked)

end Request

end SoleKey
