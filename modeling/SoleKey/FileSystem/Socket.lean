import SoleKey.FileSystem.Operations

set_option autoImplicit false

namespace SoleKey

namespace FileSystem

def nulInAddress : SystemError :=
  .described .invalidInput "paths must not contain interior null bytes"

def addressTooLong : SystemError :=
  .described .invalidInput "path must be shorter than SUN_LEN"

def hiddenAddressTooLong : SystemError :=
  .described .invalidInput "abstract socket name must be shorter than SUN_LEN"

-- Only the address of a plain path shows in the file system.
inductive Address where
  | path
  | hidden
  | chosen
  deriving DecidableEq, Repr

def address (path : String) : Except SystemError Address :=
  if path.isEmpty then .ok .chosen
  else if path.toList.head? = some (Char.ofNat 0) then
    if path.utf8ByteSize > longestSocketPath + 1 then .error hiddenAddressTooLong
    else .ok .hidden
  else if hasNul path then .error nulInAddress
  else if path.utf8ByteSize > longestSocketPath then .error addressTooLong
  else .ok .path

def makeSocket (files : FileSystem) : Except SystemError Unit :=
  match files.socketRefusal with
  | some problem => .error problem
  | none => .ok ()

def bind (files : FileSystem) (path : String) (listener : Nat) :
    Except SystemError FileSystem := do
  let kind ← address path
  files.makeSocket
  match kind with
  | .hidden | .chosen => .ok files
  | .path =>
    match ← files.resolveEnding path with
    | .unnamed _ => .error .addressInUse
    | .named directory name =>
      match files.find? (directory ++ [name]) with
      | some _ => .error .addressInUse
      | none =>
        if Path.endsInSlash path then .error .noSuchFile
        else
          .ok (files.put ⟨directory ++ [name], .socket listener, files.permitted 0o777⟩)

-- Whether the listener still listens is not for the file system to know.
def listenerAt (files : FileSystem) (path : String) : Except SystemError Nat := do
  match ← address path with
  | .hidden => .error .connectionRefused
  | .chosen => .error .invalidArgument
  | .path =>
    match (← files.resolve path).node with
    | .socket listener => .ok listener
    | _ => .error .connectionRefused

end FileSystem

end SoleKey
