import SoleKey.StoredKey
import SoleKey.Text.Quoted

set_option autoImplicit false

namespace SoleKey

def braced (name content : String) : String :=
  name ++ " \x7b " ++ content ++ " \x7d"

def Curve.summary : Curve -> String
  | .p256 => "NistP256"
  | .p384 => "NistP384"
  | .p521 => "NistP521"

def Algorithm.summary : Algorithm -> String
  | .dsa => "Dsa"
  | .ecdsa curve => braced "Ecdsa" ("curve: " ++ curve.summary)
  | .ed25519 => "Ed25519"
  | .rsa none => braced "Rsa" "hash: None"
  | .rsa (some .sha256) => braced "Rsa" "hash: Some(Sha256)"
  | .rsa (some .sha512) => braced "Rsa" "hash: Some(Sha512)"
  | .skEcdsa => "SkEcdsaSha2NistP256"
  | .skEd25519 => "SkEd25519"
  | .other name => "Other(" ++ braced "AlgorithmName" ("id: " ++ Text.quoted name) ++ ")"

def StoredKey.summary (key : StoredKey) : String :=
  braced "KeyDescriptor"
    ("algorithm: " ++ key.publicKey.algorithm.summary ++ ", comment: " ++ Text.quoted key.comment ++
      ", sealed_len: " ++ toString key.sealedPart.length)

def StoredKey.signerSummary (key : StoredKey) : String :=
  braced "TpmSigner" ("key: " ++ key.summary)

end SoleKey
