import SoleKey.Bytes
import SoleKey.Path
import SoleKey.SystemError

set_option autoImplicit false

namespace SoleKey

abbrev Location := List String

namespace FileSystem

inductive Node where
  | directory
  | file (content : Bytes)
  -- A socket leads to the listener of that number for as long as it listens.
  | socket (listener : Nat)
  deriving DecidableEq, Repr

structure Entry where
  location : Location
  node : Node
  mode : Nat
  deriving DecidableEq, Repr

end FileSystem

structure FileSystem where
  entries : List FileSystem.Entry
  workingDirectory : Location
  -- Permissions that new files and directories do not get.
  umask : Nat
  -- Why the system makes no socket at present, as when no descriptor is left.
  socketRefusal : Option SystemError
  deriving DecidableEq, Repr

namespace FileSystem

def empty (umask : Nat) : FileSystem :=
  ⟨[⟨["scratch"], .directory, 0o700⟩], ["scratch"], umask, none⟩

-- The root is always there and has no entry of its own.
def rootEntry : Entry := ⟨[], .directory, 0o755⟩

def find? (files : FileSystem) (location : Location) : Option Entry :=
  if location = [] then some rootEntry
  else files.entries.find? (·.location = location)

def isDirectory (files : FileSystem) (location : Location) : Bool :=
  match files.find? location with
  | some ⟨_, .directory, _⟩ => true
  | _ => false

def remove (files : FileSystem) (location : Location) : FileSystem :=
  { files with entries := files.entries.filter (·.location ≠ location) }

def put (files : FileSystem) (entry : Entry) : FileSystem :=
  { files.remove entry.location with
    entries := (files.remove entry.location).entries ++ [entry] }

def permitted (files : FileSystem) (mode : Nat) : Nat :=
  mode &&& (0o777 ^^^ (files.umask &&& 0o777))

def longestName : Nat := 255

def longestPath : Nat := 4095

def longestSocketPath : Nat := 107

def hasNul (path : String) : Bool :=
  path.toList.contains (Char.ofNat 0)

def badPath : SystemError :=
  .described .invalidInput "file name contained an unexpected NUL byte"

def child (location : Location) (name : String) : Location :=
  if name = ".." then location.dropLast
  else if Path.namesNothing name then location
  else location ++ [name]

def walk (files : FileSystem) : Location -> List String -> Except SystemError Location
  | location, [] => .ok location
  | location, name :: rest =>
    if !files.isDirectory location then .error .notADirectory
    else if name.utf8ByteSize > longestName then .error .nameTooLong
    else
      match files.find? (child location name) with
      | none => .error .noSuchFile
      | some _ => walk files (child location name) rest

def start (files : FileSystem) (path : String) : Location :=
  if Path.isAbsolute path then [] else files.workingDirectory

def checkPath (path : String) : Except SystemError Unit :=
  if hasNul path then .error badPath
  else if path.isEmpty then .error .noSuchFile
  else if path.utf8ByteSize > longestPath then .error .nameTooLong
  else .ok ()

def names (path : String) : List String :=
  (Path.pieces path).filter fun piece => !piece.isEmpty

-- A slash at the end asks for a directory.
def resolve (files : FileSystem) (path : String) : Except SystemError Entry := do
  checkPath path
  let location ← files.walk (files.start path) (names path)
  if Path.endsInSlash path && !files.isDirectory location then .error .notADirectory
  else
    match files.find? location with
    | some entry => .ok entry
    | none => .error .noSuchFile

inductive Ending where
  | named (directory : Location) (name : String)
  | unnamed (location : Location)
  deriving DecidableEq, Repr

/-- Walks all but the last name, which need not lead to anything. -/
def resolveEnding (files : FileSystem) (path : String) : Except SystemError Ending := do
  checkPath path
  let found := names path
  let directory ← files.walk (files.start path) found.dropLast
  match found.getLast? with
  | none => .ok (.unnamed directory)
  | some name =>
    if !files.isDirectory directory then .error .notADirectory
    else if name = "." || name = ".." then .ok (.unnamed directory)
    else if name.utf8ByteSize > longestName then .error .nameTooLong
    else .ok (.named directory name)

end FileSystem

end SoleKey
