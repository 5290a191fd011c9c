import SoleKey.Toml.Reader
import SoleKey.Toml.Table

set_option autoImplicit false

namespace SoleKey.Toml

open Reader

def isBlank (char : Char) : Bool :=
  char = ' ' || char = '\t'

-- Control characters stand nowhere in a document, except tabs and line breaks.
def isVisible (char : Char) : Bool :=
  char = '\t' || (char.toNat ≥ 0x20 && char.toNat ≠ 0x7f)

def isHexDigit (char : Char) : Bool :=
  char.isDigit || (char.toLower.toNat ≥ 97 && char.toLower.toNat ≤ 102)

def digitValue (char : Char) : Nat :=
  if char.isDigit then char.toNat - 48 else char.toLower.toNat - 87

def numberOf (base : Nat) (digits : List Char) : Nat :=
  digits.foldl (fun total digit => total * base + digitValue digit) 0

def newline : Reader Unit :=
  word "\n" <|> word "\r\n"

def count {α : Type} (reader : Reader α) : Nat -> Reader (List α)
  | 0 => return []
  | times + 1 => do
    let first ← reader
    return first :: (← count reader times)

def scalarValue (width : Nat) : Reader Char := do
  let code := numberOf 16 (← count (satisfy isHexDigit) width)
  if code.isValidChar then return Char.ofNat code else failure

def escaped : Reader Char := do
  exactly '\\'
  match ← satisfy fun _ => true with
  | 'b' => return Char.ofNat 8
  | 't' => return '\t'
  | 'n' => return '\n'
  | 'f' => return Char.ofNat 12
  | 'r' => return '\r'
  | '"' => return '"'
  | '\\' => return '\\'
  | 'u' => scalarValue 4
  | 'U' => scalarValue 8
  | _ => failure

def isPlain (char : Char) : Bool :=
  isVisible char && char ≠ '"' && char ≠ '\\'

def isLiteral (char : Char) : Bool :=
  isVisible char && char ≠ '\''

def basicText : Reader String := do
  exactly '"'
  let chars ← many (satisfy isPlain <|> escaped)
  exactly '"'
  return String.ofList chars

def literalText : Reader String := do
  exactly '\''
  let chars ← run isLiteral
  exactly '\''
  return String.ofList chars

/-- A backslash at the end of a line takes the line break and all blanks after it away. -/
def joinedLines : Reader (List Char) := do
  exactly '\\'
  let _ ← run isBlank
  newline
  let _ ← many (newline <|> do let _ ← satisfy isBlank)
  return []

def innerQuotes (quote : Char) : Reader (List Char) := do
  let found ← run1 (· = quote)
  if found.length < 3 then return found else failure

/-- Three quotes end the text; up to two more before them still belong to it. -/
def closingQuotes (quote : Char) : Reader (List Char) := do
  let found ← run1 (· = quote)
  if found.length < 3 ∨ found.length > 5 then failure else return found.drop 3

def lineBreak : Reader (List Char) := do
  newline
  return ['\n']

def longText (quote : Char) (part : Reader (List Char)) : Reader String := do
  word (String.ofList [quote, quote, quote])
  let _ ← maybe newline
  let parts ← many (part <|> lineBreak <|> innerQuotes quote)
  let last ← closingQuotes quote
  return String.ofList (parts.flatten ++ last)

def longBasicText : Reader String :=
  longText '"' (run1 isPlain <|> joinedLines <|> do return [← escaped])

def longLiteralText : Reader String :=
  longText '\'' (run1 isLiteral)

def anyText : Reader String :=
  longBasicText <|> basicText <|> longLiteralText <|> literalText

def digits (accept : Char -> Bool) : Reader (List Char) := do
  let first ← satisfy accept
  let rest ← many (satisfy accept <|> do exactly '_'; satisfy accept)
  return first :: rest

def sign : Reader Bool := do
  match ← maybe (satisfy fun char => char = '+' || char = '-') with
  | some '-' => return true
  | _ => return false

def wholePart : Reader (List Char) := do
  match ← peek with
  | some '0' =>
    exactly '0'
    return ['0']
  | _ => digits Char.isDigit

def inRange (value : Int) : Bool :=
  -Nat.pow 2 63 ≤ value && value < Nat.pow 2 63

/-- The least number that is nearer to infinity than to any number a float can hold. -/
def overflowBound : Nat := Nat.pow 2 1024 - Nat.pow 2 970

def overflows (mantissa : List Char) (exponent : Int) : Bool :=
  let value := numberOf 10 mantissa
  let size : Int := (mantissa.dropWhile (· = '0')).length + exponent
  if value = 0 || size ≤ 308 then false
  else if size > 310 then true
  else if exponent ≥ 0 then value * Nat.pow 10 exponent.toNat ≥ overflowBound
  else value ≥ overflowBound * Nat.pow 10 (-exponent).toNat

def fraction : Reader (List Char) := do
  exactly '.'
  digits Char.isDigit

def exponent : Reader Int := do
  let _ ← satisfy fun char => char = 'e' || char = 'E'
  let negative ← sign
  let value : Int := numberOf 10 (← digits Char.isDigit)
  return if negative then -value else value

def signText (negative : Bool) : String := if negative then "-" else ""

def decimal : Reader Node := do
  let negative ← sign
  let whole ← wholePart
  let part ← maybe fraction
  let power ← maybe exponent
  match part, power with
  | none, none =>
    let value : Int := if negative then -numberOf 10 whole else numberOf 10 whole
    if inRange value then return .integer value else failure
  | _, _ =>
    let after := part.getD []
    let scale := power.getD 0 - after.length
    let digits := String.ofList (whole ++ after)
    if overflows (whole ++ after) scale && !negative then failure
    else return .float (signText negative ++ digits ++ "e" ++ toString scale)

def special : Reader Node := do
  let negative ← sign
  (do word "inf"; return .float (signText negative ++ "inf")) <|>
    (do word "nan"; return .float (signText negative ++ "nan"))

def radix (mark : String) (base : Nat) (accept : Char -> Bool) : Reader Node := do
  word mark
  let value : Int := numberOf base (← digits accept)
  if inRange value then return .integer value else failure

def number : Reader Node :=
  radix "0x" 16 isHexDigit
    <|> radix "0o" 8 (fun char => '0' ≤ char && char ≤ '7')
    <|> radix "0b" 2 (fun char => char = '0' || char = '1')
    <|> decimal
    <|> special

def fixedNumber (width low high : Nat) : Reader Nat := do
  let value := numberOf 10 (← count (satisfy Char.isDigit) width)
  if low ≤ value ∧ value ≤ high then return value else failure

def isLeap (year : Nat) : Bool :=
  year % 4 = 0 && (year % 100 ≠ 0 || year % 400 = 0)

def daysIn (year month : Nat) : Nat :=
  match month with
  | 2 => if isLeap year then 29 else 28
  | 4 | 6 | 9 | 11 => 30
  | _ => 31

def date : Reader Unit := do
  let year ← fixedNumber 4 0 9999
  exactly '-'
  let month ← fixedNumber 2 1 12
  exactly '-'
  let _ ← fixedNumber 2 1 (daysIn year month)

def time : Reader Unit := do
  let _ ← fixedNumber 2 0 23
  exactly ':'
  let _ ← fixedNumber 2 0 59
  exactly ':'
  let _ ← fixedNumber 2 0 60
  let _ ← maybe (do exactly '.'; run1 Char.isDigit)

def offset : Reader Unit :=
  (do let _ ← satisfy fun char => char = 'Z' || char = 'z') <|> do
    let _ ← satisfy fun char => char = '+' || char = '-'
    let _ ← fixedNumber 2 0 23
    exactly ':'
    let _ ← fixedNumber 2 0 59

def dateAndTime : Reader Unit := do
  date
  let _ ← maybe do
    let _ ← satisfy fun char => char = 'T' || char = 't' || char = ' '
    time
    maybe offset

def taken (reader : Reader Unit) : Reader String := fun input =>
  (reader input).map fun (_, rest) =>
    (String.ofList (input.take (input.length - rest.length)), rest)

def moment : Reader Node := do
  return .moment (← taken (dateAndTime <|> time))

def truth : Reader Node :=
  (do word "true"; return .boolean true) <|> (do word "false"; return .boolean false)

def scalar : Reader Node :=
  (do return .string (← anyText)) <|> moment <|> number <|> truth

end SoleKey.Toml
