set_option autoImplicit false

namespace SoleKey.Toml

abbrev Reader (α : Type) := StateT (List Char) Option α

namespace Reader

def peek : Reader (Option Char) := fun input => some (input.head?, input)

def satisfy (accept : Char -> Bool) : Reader Char
  | char :: rest => if accept char then some (char, rest) else none
  | [] => none

def exactly (expected : Char) : Reader Unit := do
  let _ ← satisfy (· = expected)

def word (expected : String) : Reader Unit :=
  expected.toList.forM exactly

def run (accept : Char -> Bool) : Reader (List Char) := fun input =>
  some (input.takeWhile accept, input.dropWhile accept)

def run1 (accept : Char -> Bool) : Reader (List Char) := do
  let found ← run accept
  if found.isEmpty then failure else return found

def maybe {α : Type} (reader : Reader α) : Reader (Option α) := fun input =>
  match reader input with
  | some (found, rest) => some (some found, rest)
  | none => some (none, input)

def manyGo {α : Type} (reader : Reader α) : Nat -> List α -> Reader (List α)
  | 0, found => fun input => some (found.reverse, input)
  | fuel + 1, found => fun input =>
    match reader input with
    | some (next, rest) => manyGo reader fuel (next :: found) rest
    | none => some (found.reverse, input)

/-- Takes as many as there are. Each has to take at least one character. -/
def many {α : Type} (reader : Reader α) : Reader (List α) := fun input =>
  manyGo reader input.length [] input

def separated1 {α : Type} (separator : Reader Unit) (reader : Reader α) : Reader (List α) := do
  let first ← reader
  let rest ← many (do separator; reader)
  return first :: rest

def separated {α : Type} (separator : Reader Unit) (reader : Reader α) : Reader (List α) := do
  return (← maybe (separated1 separator reader)).getD []

def atEnd : Reader Unit
  | [] => some ((), [])
  | _ :: _ => none

end Reader

end SoleKey.Toml
