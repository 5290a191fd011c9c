import SoleKey.Effect
import SoleKey.FileSystem.Operations
import SoleKey.Text.Utf8

set_option autoImplicit false

namespace SoleKey

inductive LogError where
  | pathIsDirectory
  | parentIsNoDirectory
  | inaccessible (problem : SystemError)
  deriving DecidableEq, Repr

def LogError.message : LogError -> String
  | .pathIsDirectory => "Log file cannot be written because the specified path is a directory"
  | .parentIsNoDirectory =>
      "Log cannot be written because the specified path is not a directory"
  | .inaccessible _ =>
      "Log cannot be written, e.g. because the configured output directory is not accessible"

def LogError.chain (problem : LogError) : List String :=
  problem.message ::
    match problem with
    | .inaccessible source => [source.message]
    | _ => []

structure LogOutput where
  level : LogLevel
  file : Option String
  deriving DecidableEq, Repr

namespace LogOutput

def admits (output : LogOutput) (line : LogLine) : Bool :=
  line.level.severity ≤ output.level.severity

-- The directory of the log file is made; the file itself comes with its first line.
def prepareFile (files : FileSystem) (path : String) : Except LogError Unit × FileSystem :=
  if files.isDirectoryAt path then (.error .pathIsDirectory, files)
  else
    match Path.parent? path with
    | none => (.error .pathIsDirectory, files)
    | some parent =>
      match files.makeDirectories parent with
      | (.error problem, made) => (.error (.inaccessible problem), made)
      | (.ok (), made) =>
        match made.resolve parent with
        | .error problem => (.error (.inaccessible problem), made)
        | .ok ⟨_, .directory, _⟩ => (.ok (), made)
        | .ok _ => (.error .parentIsNoDirectory, made)

def prepare (output : LogOutput) (files : FileSystem) : Except LogError Unit × FileSystem :=
  match output.file with
  | none => (.ok (), files)
  | some path => prepareFile files path

def select (output : LogOutput) (effects : List Effect) : List LogLine :=
  (Effect.logLines effects).filter output.admits

def appendLine (path : String) (files : FileSystem) (line : LogLine) : FileSystem :=
  (files.append path (Text.encode (line.render ++ "\n"))).toOption.getD files

def write (output : LogOutput) (files : FileSystem) (effects : List Effect) :
    List LogLine × FileSystem :=
  match output.file with
  | none => (output.select effects, files)
  | some path => ([], (output.select effects).foldl (appendLine path) files)

end LogOutput

end SoleKey
