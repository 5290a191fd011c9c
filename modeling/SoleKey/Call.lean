import SoleKey.PrivateKey
import SoleKey.Signature

set_option autoImplicit false

namespace SoleKey

inductive Offer where
  | key (pair : Keypair) (comment : String)
  | certificate (kind comment : String)
  deriving DecidableEq, Repr

structure Extension where
  name : String
  details : Bytes
  deriving DecidableEq, Repr

inductive Call where
  | list
  | sign (key : PublicKey) (data : Bytes) (flags : SignatureFlags)
  | add (offer : Offer)
  | remove (key : PublicKey)
  | removeAll
  | lock (passphrase : String)
  | unlock (passphrase : String)
  | extension (asked : Extension)
  | close
  deriving DecidableEq, Repr

end SoleKey
