set_option autoImplicit false

namespace SoleKey.Toml

-- How a table came to be decides what may still be added to it: it was opened by a header, written
-- in line, or made on the way to another table.
inductive Origin where
  | inline
  | header
  | implied
  | dotted
  deriving DecidableEq, Repr

inductive Node where
  | string (text : String)
  | integer (value : Int)
  | float (text : String)
  | boolean (value : Bool)
  | moment (text : String)
  | array (elements : List Node)
  | table (origin : Origin) (members : List (String × Node))
  -- Each header in double brackets adds one of these tables.
  | tables (elements : List (List (String × Node)))

abbrev Members := List (String × Node)

-- A key with dots does not reach into a table that was opened as a whole.
def Origin.admits (dotted : Bool) : Origin -> Bool
  | .inline => false
  | .header => !dotted
  | .implied | .dotted => true

namespace Members

def set (members : Members) (key : String) (node : Node) : Members :=
  members.map fun (other, old) => if other = key then (other, node) else (other, old)

def alter (dotted : Bool) (change : Origin -> Members -> Option Members) :
    List String -> Origin -> Members -> Option Members
  | [], origin, members => change origin members
  | key :: rest, _, members =>
    match members.lookup key with
    | none =>
      let origin := if dotted then Origin.dotted else .implied
      (alter dotted change rest origin []).map fun inner =>
        members ++ [(key, .table origin inner)]
    | some (.table origin inner) =>
      if origin.admits dotted then
        (alter dotted change rest origin inner).map fun changed =>
          set members key (.table origin changed)
      else none
    | some (.tables elements) =>
      match elements.getLast? with
      | none => none
      | some inner =>
        (alter dotted change rest .header inner).map fun changed =>
          set members key (.tables (elements.dropLast ++ [changed]))
    | some _ => none

/-- Gives a key its value; the keys before the last dot name tables made by such keys alone. -/
def assign (path : List String) (key : String) (value : Node) (members : Members) :
    Option Members :=
  let insert (origin : Origin) (found : Members) : Option Members :=
    if (path.isEmpty || origin = .dotted) && (found.lookup key).isNone then
      some (found ++ [(key, value)])
    else none
  alter true insert path .header members

def openTable (path : List String) (key : String) (members : Members) : Option Members :=
  let insert (_ : Origin) (found : Members) : Option Members :=
    match found.lookup key with
    | none => some (found ++ [(key, .table .header [])])
    | some (.table .implied inner) => some (found.set key (.table .header inner))
    | some _ => none
  alter false insert path .header members

def addTable (path : List String) (key : String) (members : Members) : Option Members :=
  let insert (_ : Origin) (found : Members) : Option Members :=
    match found.lookup key with
    | none => some (found ++ [(key, .tables [[]])])
    | some (.tables elements) => some (found.set key (.tables (elements ++ [[]])))
    | some _ => none
  alter false insert path .header members

def assignUnder (header path : List String) (key : String) (value : Node) (members : Members) :
    Option Members :=
  alter false (fun _ found => assign path key value found) header .header members

def ofPairs (pairs : List (List String × String × Node)) : Option Members :=
  pairs.foldlM (fun members (path, key, value) => assign path key value members) []

end Members

end SoleKey.Toml
