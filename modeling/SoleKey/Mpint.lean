import SoleKey.FormatError

set_option autoImplicit false

namespace SoleKey.Mpint

def isCanonical : Bytes -> Bool
  | [0] => false
  | 0 :: next :: _ => next ≥ 0x80
  | _ => true

-- Zero and negative numbers are kept as they stand; a leading zero byte is accepted only where the
-- next byte would read as a sign.
def decode : KeyDecoder Bytes := do
  let content ← Wire.bytes
  if isCanonical content then return content else throw .encoding

def positive? : Bytes -> Option Bytes
  | [] => none
  | 0 :: rest => some rest
  | first :: rest => if first < 0x80 then some (first :: rest) else none

def ofDigits (digits : Bytes) : Bytes :=
  match Bytes.dropZeros digits with
  | [] => []
  | first :: rest => if first ≥ 0x80 then 0 :: first :: rest else first :: rest

def encode (content : Bytes) : Bytes :=
  Wire.putBytes content

end SoleKey.Mpint
