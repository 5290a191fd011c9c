import SoleKey.Agent

set_option autoImplicit false

namespace SoleKey

inductive Reply where
  | failure
  | success
  | identities (found : List Identity)
  | signature (made : Signature)
  | extensionFailure
  | extension (given : Extension)
  deriving DecidableEq, Repr

def Answer.reply : Answer -> Reply
  | .identities found => .identities found
  | .signature made => .signature made
  | .done => .success
  | .extension given => .extension given

namespace Reply

def encodeIdentity (identity : Identity) : Bytes :=
  Wire.putBytes identity.blob ++ Wire.putText identity.comment

def encode : Reply -> Bytes
  | .failure => [5]
  | .success => [6]
  | .identities found => 12 :: (Wire.putWord32 found.length ++ found.flatMap encodeIdentity)
  | .signature made => 14 :: Wire.putBytes made.encode
  | .extensionFailure => [28]
  | .extension given => 29 :: (Wire.putText given.name ++ given.details)

end Reply

end SoleKey
