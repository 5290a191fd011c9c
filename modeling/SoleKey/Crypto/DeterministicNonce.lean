import SoleKey.Crypto.Sha512

set_option autoImplicit false

namespace SoleKey.Crypto

structure HashFunction where
  blockSize : Nat
  digest : Bytes -> Bytes

namespace HashFunction

def sha256 : HashFunction := ⟨64, Crypto.sha256⟩

def sha384 : HashFunction := ⟨128, Crypto.sha384⟩

def sha512 : HashFunction := ⟨128, Crypto.sha512⟩

def keyed (hash : HashFunction) (key message : Bytes) : Bytes :=
  let short := if key.length > hash.blockSize then hash.digest key else key
  let padded := short ++ List.replicate (hash.blockSize - short.length) 0
  hash.digest (padded.map (· ^^^ 0x5c) ++ hash.digest (padded.map (· ^^^ 0x36) ++ message))

end HashFunction

structure NonceState where
  key : Bytes
  value : Bytes

namespace NonceState

def update (hash : HashFunction) (state : NonceState) (marker : UInt8) (input : Bytes) :
    NonceState :=
  let key := hash.keyed state.key (state.value ++ marker :: input)
  ⟨key, hash.keyed key state.value⟩

def start (hash : HashFunction) (input : Bytes) : NonceState :=
  let size := (hash.digest []).length
  let blank : NonceState := ⟨List.replicate size 0, List.replicate size 1⟩
  (blank.update hash 0 input).update hash 1 input

def draw (hash : HashFunction) (size : Nat) : Nat -> NonceState -> Bytes -> NonceState × Bytes
  | 0, state, found => (state, found)
  | steps + 1, state, found =>
    if found.length ≥ size then (state, found)
    else
      let value := hash.keyed state.key state.value
      draw hash size steps ⟨state.key, value⟩ (found ++ value)

end NonceState

def bitLength (value : Nat) : Nat :=
  if value = 0 then 0 else value.log2 + 1

def leadingBits (order : Nat) (bytes : Bytes) : Nat :=
  Bytes.toNat bytes >>> (bytes.length * 8 - bitLength order)

def firstNonce {α : Type} (hash : HashFunction) (order : Nat) (accept : Nat -> Option α) :
    Nat -> NonceState -> Option α
  | 0, _ => none
  | tries + 1, state =>
    let size := (bitLength order + 7) / 8
    let (state, bytes) := state.draw hash size size []
    let nonce := leadingBits order bytes
    match if 0 < nonce ∧ nonce < order then accept nonce else none with
    | some found => some found
    | none => firstNonce hash order accept tries (state.update hash 0 [])

end SoleKey.Crypto
