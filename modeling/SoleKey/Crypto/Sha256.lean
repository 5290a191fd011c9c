import SoleKey.Bytes

set_option autoImplicit false

namespace SoleKey.Crypto

def chunks {α : Type} (size count : Nat) (items : List α) : List (List α) :=
  (List.range count).foldl
    (fun (found, rest) _ => (rest.take size :: found, rest.drop size)) ([], items)
    |>.1.reverse

def padMessage (blockSize lengthSize : Nat) (message : Bytes) : Bytes :=
  let used := (message.length + 1 + lengthSize) % blockSize
  let zeros := if used = 0 then 0 else blockSize - used
  message ++ (0x80 :: List.replicate zeros 0) ++ Bytes.ofNat lengthSize (message.length * 8)

namespace Sha256

def roundConstants : List UInt32 := [
  0x428a2f98, 0x71374491, 0xb5c0fbcf, 0xe9b5dba5, 0x3956c25b, 0x59f111f1, 0x923f82a4, 0xab1c5ed5,
  0xd807aa98, 0x12835b01, 0x243185be, 0x550c7dc3, 0x72be5d74, 0x80deb1fe, 0x9bdc06a7, 0xc19bf174,
  0xe49b69c1, 0xefbe4786, 0x0fc19dc6, 0x240ca1cc, 0x2de92c6f, 0x4a7484aa, 0x5cb0a9dc, 0x76f988da,
  0x983e5152, 0xa831c66d, 0xb00327c8, 0xbf597fc7, 0xc6e00bf3, 0xd5a79147, 0x06ca6351, 0x14292967,
  0x27b70a85, 0x2e1b2138, 0x4d2c6dfc, 0x53380d13, 0x650a7354, 0x766a0abb, 0x81c2c92e, 0x92722c85,
  0xa2bfe8a1, 0xa81a664b, 0xc24b8b70, 0xc76c51a3, 0xd192e819, 0xd6990624, 0xf40e3585, 0x106aa070,
  0x19a4c116, 0x1e376c08, 0x2748774c, 0x34b0bcb5, 0x391c0cb3, 0x4ed8aa4a, 0x5b9cca4f, 0x682e6ff3,
  0x748f82ee, 0x78a5636f, 0x84c87814, 0x8cc70208, 0x90befffa, 0xa4506ceb, 0xbef9a3f7, 0xc67178f2]

structure State where
  a : UInt32
  b : UInt32
  c : UInt32
  d : UInt32
  e : UInt32
  f : UInt32
  g : UInt32
  h : UInt32
  deriving DecidableEq, Repr

def start : State :=
  ⟨0x6a09e667, 0xbb67ae85, 0x3c6ef372, 0xa54ff53a, 0x510e527f, 0x9b05688c, 0x1f83d9ab, 0x5be0cd19⟩

def rotate (word amount : UInt32) : UInt32 :=
  (word >>> amount) ||| (word <<< (32 - amount))

def word (bytes : Bytes) : UInt32 :=
  bytes.foldl (fun total byte => (total <<< 8) ||| byte.toUInt32) 0

def schedule (block : Bytes) : Array UInt32 :=
  let first := ((chunks 4 16 block).map word).toArray
  (List.range 48).foldl (fun words step =>
    let near := words.getD (step + 1) 0
    let far := words.getD (step + 14) 0
    let low := rotate near 7 ^^^ rotate near 18 ^^^ (near >>> 3)
    let high := rotate far 17 ^^^ rotate far 19 ^^^ (far >>> 10)
    words.push (words.getD step 0 + low + words.getD (step + 9) 0 + high)) first

def round (state : State) (input : UInt32 × UInt32) : State :=
  let mix := rotate state.e 6 ^^^ rotate state.e 11 ^^^ rotate state.e 25
  let choice := (state.e &&& state.f) ^^^ (~~~state.e &&& state.g)
  let first := state.h + mix + choice + input.1 + input.2
  let spread := rotate state.a 2 ^^^ rotate state.a 13 ^^^ rotate state.a 22
  let majority := (state.a &&& state.b) ^^^ (state.a &&& state.c) ^^^ (state.b &&& state.c)
  ⟨first + (spread + majority), state.a, state.b, state.c, state.d + first, state.e, state.f,
    state.g⟩

def compress (state : State) (block : Bytes) : State :=
  let final := (roundConstants.zip (schedule block).toList).foldl round state
  ⟨state.a + final.a, state.b + final.b, state.c + final.c, state.d + final.d,
    state.e + final.e, state.f + final.f, state.g + final.g, state.h + final.h⟩

def State.toBytes (state : State) : Bytes :=
  [state.a, state.b, state.c, state.d, state.e, state.f, state.g, state.h].flatMap
    fun value => Bytes.ofNat 4 value.toNat

end Sha256

def sha256 (message : Bytes) : Bytes :=
  let padded := padMessage 64 8 message
  ((chunks 64 (padded.length / 64) padded).foldl Sha256.compress Sha256.start).toBytes

end SoleKey.Crypto
