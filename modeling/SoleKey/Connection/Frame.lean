import SoleKey.Error

set_option autoImplicit false

namespace SoleKey.Frame

def maxBody : Nat := 256 * 1024

def headerSize : Nat := 4

inductive Next where
  | frame (body rest : Bytes)
  | oversized
  | incomplete
  deriving DecidableEq, Repr

def next (buffer : Bytes) : Next :=
  match Wire.word32.run buffer with
  | .error _ => .incomplete
  | .ok (count, rest) =>
    if count > maxBody then .oversized
    else
      match Bytes.split? count rest with
      | some (body, rest) => .frame body rest
      | none => .incomplete

/-- The input may stop between frames, or right after the length of one. -/
def mayEnd (buffer : Bytes) : Bool :=
  buffer.length = 0 || buffer.length = headerSize

def cutShort : SystemError := .described .other "bytes remaining on stream"

def tooBig : SystemError := .described .invalidInput "frame size too big"

def encode? (body : Bytes) : Option Bytes :=
  if body.length > maxBody then none else some (Wire.putBytes body)

def splitAll (fuel : Nat) (buffer : Bytes) : List Bytes × Bytes :=
  go fuel [] buffer
where
  go : Nat -> List Bytes -> Bytes -> List Bytes × Bytes
    | 0, found, rest => (found.reverse, rest)
    | fuel + 1, found, rest =>
      match next rest with
      | .frame body rest => go fuel (body :: found) rest
      | .oversized | .incomplete => (found.reverse, rest)

end SoleKey.Frame
