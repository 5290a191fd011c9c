import SoleKey.Effect
import SoleKey.Error
import SoleKey.FileSystem.Socket

set_option autoImplicit false

namespace SoleKey

namespace Binding

structure Step where
  effects : List Effect
  result : Except AgentError Unit
  files : FileSystem

def socketMode : Nat := 0o600

-- A failure to remove what is there is not yet a failure to bind.
def clear (files : FileSystem) (path : String) : List Effect × FileSystem :=
  match files.unlink path with
  | .ok next => ([.debug ("Removed stale socket " ++ path)], next)
  | .error problem =>
    if problem.kind = .notFound then ([], files)
    else ([.warn ("Failed to remove " ++ path ++ ": " ++ problem.message)], files)

def makeParent (files : FileSystem) (path : String) : Except AgentError Unit × FileSystem :=
  match Path.parent? path with
  | none => (.ok (), files)
  | some parent =>
    match files.makeDirectories parent with
    | (.ok (), next) => (.ok (), next)
    | (.error problem, next) => (.error (.createDir parent problem), next)

def attach (files : FileSystem) (path : String) (listener : Nat) :
    Except AgentError Unit × FileSystem :=
  match files.bind path listener with
  | .error problem => (.error (.bind path problem), files)
  | .ok bound =>
    match bound.setMode path socketMode with
    | .ok restricted => (.ok (), restricted)
    | .error problem => (.error (.permissions path problem), bound)

def perform (files : FileSystem) (path : String) (listener : Nat) : Step :=
  let (effects, cleared) := clear files path
  match makeParent cleared path with
  | (.error problem, made) => ⟨effects, .error problem, made⟩
  | (.ok (), made) =>
    match attach made path listener with
    | (.error problem, left) => ⟨effects, .error problem, left⟩
    | (.ok (), bound) =>
      ⟨effects ++ [.info ("Agent listening on " ++ path)], .ok (), bound⟩

-- A file that is gone already is no loss.
def release (files : FileSystem) (path : String) : FileSystem :=
  (files.unlink path).toOption.getD files

def carryOut (files : FileSystem) (effects : List Effect) : FileSystem :=
  (Effect.removedFiles effects).foldl release files

end Binding

end SoleKey
