import SoleKey.Text.Utf8

set_option autoImplicit false

namespace SoleKey

inductive WireError where
  | length
  | overflow
  | characterEncoding
  | label (text : String)
  | trailingData (count : Nat)
  deriving DecidableEq, Repr

def WireError.message : WireError -> String
  | .length => "length invalid"
  | .overflow => "internal overflow error"
  | .characterEncoding => "character encoding invalid"
  | .label text => "invalid label: '" ++ text ++ "'"
  | .trailingData count =>
      "unexpected trailing data at end of message (" ++ toString count ++ " bytes)"

abbrev Decoder (ε α : Type) := StateT Bytes (Except ε) α

namespace Decoder

def ofExcept {ε α : Type} (result : Except ε α) : Decoder ε α :=
  fun input => result.map (·, input)

def mapError {ε δ α : Type} (change : ε -> δ) (decoder : Decoder ε α) : Decoder δ α :=
  fun input => (decoder.run input).mapError change

def value {ε α : Type} (decoder : Decoder ε α) (input : Bytes) : Except ε α :=
  (decoder.run input).map Prod.fst

/-- Runs a decoder on the next `count` bytes only. What it leaves unread stays in the input. -/
def within {ε α : Type} (count : Nat) (decoder : Decoder ε α) : Decoder ε α :=
  fun input =>
    match decoder.run (input.take count) with
    | .ok (found, unread) => .ok (found, unread ++ input.drop count)
    | .error problem => .error problem

end Decoder

namespace Wire

/-- A length on the wire may not exceed this, whatever its field could hold. -/
def maxLength : Nat := 0xFFFFF

def raw (count : Nat) : Decoder WireError Bytes :=
  fun input =>
    match Bytes.split? count input with
    | some parts => .ok parts
    | none => .error .length

def byte : Decoder WireError UInt8
  | [] => .error .length
  | first :: rest => .ok (first, rest)

def word32 : Decoder WireError Nat
  | a :: b :: c :: d :: rest => .ok (Bytes.toNat [a, b, c, d], rest)
  | _ => .error .length

def length : Decoder WireError Nat := do
  let count ← word32
  if count > maxLength then throw .overflow else return count

def prefixed {ε α : Type} (lift : WireError -> ε) (decoder : Decoder ε α) : Decoder ε α := do
  let count ← length.mapError lift
  decoder.within count

def bytes : Decoder WireError Bytes := do
  raw (← length)

def ofUtf8 (found : Bytes) : Except WireError String :=
  match Text.decode? found with
  | some text => .ok text
  | none => .error .characterEncoding

def text : Decoder WireError String := do
  Decoder.ofExcept (ofUtf8 (← bytes))

/-- A byte string of known size: a longer one loses only its front. -/
def array (size : Nat) : Decoder WireError Bytes :=
  prefixed id (raw size)

def bounded (limit : Nat) : Decoder WireError Bytes := do
  let count ← length
  if count > limit then throw .length else raw count

/-- No name of an algorithm, curve, cipher or key derivation is longer. -/
def maxLabel : Nat := 48

def label {α : Type} (ofName? : String -> Option α) : Decoder WireError α := do
  let name ← Decoder.ofExcept (ofUtf8 (← bounded maxLabel))
  match ofName? name with
  | some found => return found
  | none => throw (.label name)

def putWord32 (value : Nat) : Bytes :=
  Bytes.ofNat 4 value

def putBytes (content : Bytes) : Bytes :=
  putWord32 content.length ++ content

def putText (content : String) : Bytes :=
  putBytes (Text.encode content)

def putStrings : List Bytes -> Except WireError Bytes
  | [] => .ok []
  | content :: rest =>
    if content.length < UInt32.size then do
      return putBytes content ++ (← putStrings rest)
    else .error .overflow

end Wire

end SoleKey
