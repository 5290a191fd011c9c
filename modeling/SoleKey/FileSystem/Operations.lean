import SoleKey.FileSystem.Basic

set_option autoImplicit false

namespace SoleKey

namespace FileSystem

-- An operation that fails changes nothing, but making several directories may stop half way.
abbrev Outcome := Except SystemError Unit × FileSystem

def outcome (files : FileSystem) : Except SystemError FileSystem -> Outcome
  | .ok next => (.ok (), next)
  | .error problem => (.error problem, files)

-- What has been opened can still turn out to be unreadable.
inductive Opened where
  | directory
  | file (content : Bytes)
  deriving DecidableEq, Repr

def Opened.read : Opened -> Except SystemError Bytes
  | .directory => .error .isADirectory
  | .file content => .ok content

def openFile (files : FileSystem) (path : String) : Except SystemError Opened := do
  match (← files.resolve path).node with
  | .directory => .ok .directory
  | .file content => .ok (.file content)
  | .socket _ => .error .noSuchDevice

def read (files : FileSystem) (path : String) : Except SystemError Bytes := do
  (← files.openFile path).read

def isPresent (files : FileSystem) (path : String) : Bool :=
  (files.resolve path).isOk

def isDirectoryAt (files : FileSystem) (path : String) : Bool :=
  match files.resolve path with
  | .ok ⟨_, .directory, _⟩ => true
  | _ => false

-- The mode of a file that is already there stays.
def change (files : FileSystem) (path : String) (edit : Bytes -> Bytes) :
    Except SystemError FileSystem := do
  match ← files.resolveEnding path with
  | .unnamed _ => .error .isADirectory
  | .named directory name =>
    let location := directory ++ [name]
    if Path.endsInSlash path then .error .isADirectory
    else
      match files.find? location with
      | none => .ok (files.put ⟨location, .file (edit []), files.permitted 0o666⟩)
      | some ⟨_, .file content, mode⟩ => .ok (files.put ⟨location, .file (edit content), mode⟩)
      | some ⟨_, .directory, _⟩ => .error .isADirectory
      | some ⟨_, .socket _, _⟩ => .error .noSuchDevice

def write (files : FileSystem) (path : String) (content : Bytes) :
    Except SystemError FileSystem :=
  files.change path fun _ => content

def append (files : FileSystem) (path : String) (content : Bytes) :
    Except SystemError FileSystem :=
  files.change path fun before => before ++ content

def unlink (files : FileSystem) (path : String) : Except SystemError FileSystem := do
  match ← files.resolveEnding path with
  | .unnamed _ => .error .isADirectory
  | .named directory name =>
    match files.find? (directory ++ [name]) with
    | none => .error .noSuchFile
    | some ⟨_, .directory, _⟩ => .error .isADirectory
    | some _ =>
      if Path.endsInSlash path then .error .notADirectory
      else .ok (files.remove (directory ++ [name]))

def makeDirectory (files : FileSystem) (path : String) : Except SystemError FileSystem := do
  match ← files.resolveEnding path with
  | .unnamed _ => .error .fileExists
  | .named directory name =>
    match files.find? (directory ++ [name]) with
    | some _ => .error .fileExists
    | none => .ok (files.put ⟨directory ++ [name], .directory, files.permitted 0o777⟩)

def noWholeTree : SystemError := .described .uncategorized "failed to create whole tree"

-- A directory that is already there is as good as a new one.
def ensureDirectory (files : FileSystem) (path : String) : Outcome :=
  match files.makeDirectory path with
  | .ok next => (.ok (), next)
  | .error problem =>
    if files.isDirectoryAt path then (.ok (), files) else (.error problem, files)

def makeDirectoriesGo : Nat -> String -> FileSystem -> Outcome
  | 0, _, files => (.error noWholeTree, files)
  | fuel + 1, path, files =>
    if path.isEmpty then (.ok (), files)
    else
      match files.ensureDirectory path with
      | (.error problem, _) =>
        if problem.kind = .notFound then
          match Path.parent? path with
          | none => (.error noWholeTree, files)
          | some parent =>
            match makeDirectoriesGo fuel parent files with
            | (.ok (), made) => made.ensureDirectory path
            | failed => failed
        else (.error problem, files)
      | done => done

def makeDirectories (files : FileSystem) (path : String) : Outcome :=
  makeDirectoriesGo (path.length + 1) path files

def setMode (files : FileSystem) (path : String) (mode : Nat) :
    Except SystemError FileSystem := do
  let entry ← files.resolve path
  .ok (files.put { entry with mode := mode })

def list (files : FileSystem) (path : String) : Except SystemError (List String) := do
  let entry ← files.resolve path
  match entry.node with
  | .directory =>
    let found := files.entries.filterMap fun other =>
      if other.location ≠ [] ∧ other.location.dropLast = entry.location then
        other.location.getLast?
      else none
    .ok (found.mergeSort (· ≤ ·))
  | _ => .error .notADirectory

end FileSystem

end SoleKey
