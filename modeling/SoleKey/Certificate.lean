import SoleKey.Signature

set_option autoImplicit false

namespace SoleKey.Certificate

def suffix : List Char := "-cert-v01".toList

def maxName : Nat := 73

def otherAlgorithm? (kind : String) : Option Algorithm :=
  if isAscii kind && Text.byteLength kind ≤ maxName && hasNameAndDomain kind then
    let (name, domain) := kind.toList.span (· != '@')
    if suffix.isSuffixOf name then
      some (.other (String.ofList (name.take (name.length - suffix.length) ++ domain)))
    else none
  else none

def algorithm? : String -> Option Algorithm
  | "ssh-dss-cert-v01@openssh.com" => some .dsa
  | "ecdsa-sha2-nistp256-cert-v01@openssh.com" => some (.ecdsa .p256)
  | "ecdsa-sha2-nistp384-cert-v01@openssh.com" => some (.ecdsa .p384)
  | "ecdsa-sha2-nistp521-cert-v01@openssh.com" => some (.ecdsa .p521)
  | "ssh-ed25519-cert-v01@openssh.com" => some .ed25519
  | "ssh-rsa-cert-v01@openssh.com" => some (.rsa none)
  | "sk-ecdsa-sha2-nistp256-cert-v01@openssh.com" => some .skEcdsa
  | "sk-ssh-ed25519-cert-v01@openssh.com" => some .skEd25519
  | kind => otherAlgorithm? kind

def decodeKind : KeyDecoder Algorithm := do
  let kind ← Wire.text
  match algorithm? kind with
  | some algorithm => return algorithm
  | none => throw (.wire (.label kind))

def word64 : KeyDecoder Nat := do
  return Bytes.toNat (← Wire.raw 8)

def toEnd {ε : Type} (step : Decoder ε Unit) : Nat -> Decoder ε Unit
  | 0 => return ()
  | fuel + 1 => do
    if (← get).isEmpty then return ()
    step
    toEnd step fuel

def texts : KeyDecoder Unit :=
  Wire.prefixed .wire do
    toEnd (do let _ ← Wire.text) ((← get).length)

def options : KeyDecoder Unit :=
  Wire.prefixed .wire do
    toEnd (do let _ ← Wire.text; let _ ← Wire.text) ((← get).length)

def decodeSignature : KeyDecoder Signature := do
  let algorithm ← Algorithm.decode
  let data ← Wire.bytes
  let trailer ← if algorithm = .skEd25519 then Wire.raw Signature.trailerSize else pure []
  Decoder.ofExcept (Signature.make algorithm (data ++ trailer))

-- Only the shape is checked; of what a certificate says nothing is used.
def decode : KeyDecoder Unit := do
  let algorithm ← decodeKind
  let _nonce ← Wire.bytes
  let _key ← PublicKey.decodeFields algorithm
  let _serial ← word64
  let role ← Wire.word32
  if role ≠ 1 ∧ role ≠ 2 then throw .encoding
  let _id ← Wire.text
  texts
  let _validAfter ← word64
  let _validBefore ← word64
  options
  options
  let _reserved ← Wire.bytes
  let _authority ← PublicKey.decodePrefixed
  let _signature ← Wire.prefixed .wire decodeSignature

end SoleKey.Certificate
