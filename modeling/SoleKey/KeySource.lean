import SoleKey.KeyOperation

set_option autoImplicit false

namespace SoleKey

inductive KeyFile where
  | missing
  | directory
  | file (content : Bytes)
  deriving DecidableEq, Repr

namespace KeyFile

def read : KeyFile -> Except SystemError Bytes
  | .missing => .error .noSuchFile
  | .directory => .error .isADirectory
  | .file content => .ok content

def write (found : KeyFile) (content : Bytes) : Except SystemError KeyFile :=
  match found with
  | .directory => .error .isADirectory
  | _ => .ok (.file content)

def makeDirectory : KeyFile -> Except SystemError KeyFile
  | .missing => .ok .directory
  | _ => .error .fileExists

end KeyFile

def StoredKey.load (path : String) (found : Except SystemError Bytes) : Load :=
  match found with
  | .error problem => .failed (.read path problem)
  | .ok content =>
    match StoredKey.decode content with
    | .ok key => .loaded key
    | .error problem => .failed (.record problem)

inductive KeySource where
  | file (path : String)
  | failing (problem : KeyError)
  | crashing
  deriving DecidableEq, Repr

def KeySource.load (source : KeySource) (found : KeyFile) : Load :=
  match source with
  | .file path => StoredKey.load path found.read
  | .failing problem => .failed problem
  | .crashing => .crashed

end SoleKey
