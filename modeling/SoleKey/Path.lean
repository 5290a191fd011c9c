set_option autoImplicit false

namespace SoleKey

namespace Path

def splitSlashes : List Char -> List (List Char)
  | [] => [[]]
  | char :: rest =>
    if char = '/' then [] :: splitSlashes rest
    else
      match splitSlashes rest with
      | piece :: pieces => (char :: piece) :: pieces
      | [] => [[char]]

def pieces (path : String) : List String :=
  (splitSlashes path.toList).map String.ofList

def isAbsolute (path : String) : Bool :=
  path.toList.head? = some '/'

def endsInSlash (path : String) : Bool :=
  path.toList.getLast? = some '/'

-- An absolute path stands on its own.
def join (directory path : String) : String :=
  if isAbsolute path then path
  else if directory.isEmpty || endsInSlash directory then directory ++ path
  else directory ++ "/" ++ path

-- Empty names and `.` name nothing, except that a leading `.` counts.
def namesNothing (piece : String) : Bool :=
  piece.isEmpty || piece = "."

/-- Drops pieces that name nothing from the end, up to a first piece that is kept as it is. -/
def dropIdleEnd : List String -> List String
  | [] => []
  | first :: rest =>
    first :: (rest.reverse.dropWhile namesNothing).reverse

def trim (found : List String) : List String :=
  ((found.dropWhile namesNothing).reverse.dropWhile namesNothing).reverse

def ofPieces (found : List String) : String :=
  "/".intercalate found

/-- What is left without the last name. Neither the root nor the empty path has a last name. -/
def parent? (path : String) : Option String :=
  match dropIdleEnd (pieces path) with
  | [] | [""] => none
  | [_] => some ""
  | found =>
    match dropIdleEnd found.dropLast with
    | [""] => some "/"
    | rest => some (ofPieces rest)

def expandTilde (home path : String) : String :=
  match pieces path with
  | "~" :: rest => join home (ofPieces (trim rest))
  | _ => path

end Path

end SoleKey
