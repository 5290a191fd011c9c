import SoleKey.Toml.Scalar

set_option autoImplicit false

namespace SoleKey.Toml

open Reader

-- How deep arrays and tables in line may be nested, and one more than the dots in a key.
def deepest : Nat := 79

def isBareKeyChar (char : Char) : Bool :=
  char.isAlphanum || char = '-' || char = '_'

def simpleKey : Reader String :=
  basicText <|> literalText <|> do return String.ofList (← run1 isBareKeyChar)

def paddedKey : Reader String := do
  let _ ← run isBlank
  let key ← simpleKey
  let _ ← run isBlank
  return key

def key : Reader (List String × String) := do
  let keys ← separated1 (exactly '.') paddedKey
  match keys.getLast? with
  | some last => if keys.length ≤ deepest then return (keys.dropLast, last) else failure
  | none => failure

def comment : Reader Unit := do
  exactly '#'
  let _ ← run isVisible

def gap : Reader Unit := do
  let _ ← many (newline <|> comment <|> do let _ ← run1 isBlank)

def array (value : Reader Node) : Reader Node := do
  exactly '['
  gap
  let elements ← separated (do exactly ','; gap) (do let element ← value; gap; return element)
  if !elements.isEmpty then
    let _ ← maybe (do exactly ','; gap)
  exactly ']'
  return .array elements

def inlinePair (value : Reader Node) : Reader (List String × String × Node) := do
  let (path, last) ← key
  exactly '='
  let _ ← run isBlank
  let found ← value
  let _ ← run isBlank
  return (path, last, found)

def inlineTable (value : Reader Node) : Reader Node := do
  exactly '\x7b'
  let pairs ← separated (exactly ',') (inlinePair value)
  let _ ← run isBlank
  exactly '\x7d'
  match Members.ofPairs pairs with
  | some members => return .table .inline members
  | none => failure

def value : Nat -> Reader Node
  | 0 => scalar
  | depth + 1 => scalar <|> array (value depth) <|> inlineTable (value depth)

inductive Statement where
  | pair (path : List String) (key : String) (value : Node)
  | table (path : List String) (key : String)
  | addedTable (path : List String) (key : String)

def lineEnd : Reader Unit := do
  let _ ← run isBlank
  let _ ← maybe comment
  newline <|> atEnd

def header : Reader Statement := do
  exactly '['
  let (path, last) ← key
  exactly ']'
  return .table path last

def doubleHeader : Reader Statement := do
  word "[["
  let (path, last) ← key
  word "]]"
  return .addedTable path last

def pair : Reader Statement := do
  let (path, last) ← key
  exactly '='
  let _ ← run isBlank
  return .pair path last (← value deepest)

def line : Reader (Option Statement) := do
  let _ ← run isBlank
  let found ← maybe (doubleHeader <|> header <|> pair)
  lineEnd
  return found

def linesGo : Nat -> List Statement -> Reader (List Statement)
  | 0, found => do
    atEnd
    return found.reverse
  | fuel + 1, found => fun input =>
    if input.isEmpty then some (found.reverse, [])
    else
      match line input with
      | some (some statement, rest) => linesGo fuel (statement :: found) rest
      | some (none, rest) => linesGo fuel found rest
      | none => none

structure Draft where
  header : List String
  members : Members

def Draft.add (draft : Draft) : Statement -> Option Draft
  | .pair path last found =>
      (Members.assignUnder draft.header path last found draft.members).map fun members =>
        { draft with members := members }
  | .table path last =>
      (Members.openTable path last draft.members).map fun members => ⟨path ++ [last], members⟩
  | .addedTable path last =>
      (Members.addTable path last draft.members).map fun members => ⟨path ++ [last], members⟩

def byteOrderMark : Char := Char.ofNat 0xfeff

def parse? (text : String) : Option Members := do
  let chars :=
    match text.toList with
    | first :: rest => if first = byteOrderMark then rest else first :: rest
    | [] => []
  let (statements, _) ← linesGo chars.length [] chars
  let draft ← statements.foldlM Draft.add ⟨[], []⟩
  return draft.members

end SoleKey.Toml
