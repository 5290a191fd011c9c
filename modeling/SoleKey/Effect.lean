import SoleKey.Call
import SoleKey.Tpm

set_option autoImplicit false

namespace SoleKey

inductive LogLevel where
  | error
  | warn
  | info
  | debug
  | trace
  deriving DecidableEq, Repr

namespace LogLevel

def name : LogLevel -> String
  | .error => "error"
  | .warn => "warn"
  | .info => "info"
  | .debug => "debug"
  | .trace => "trace"

def label : LogLevel -> String
  | .error => "ERROR"
  | .warn => "WARN"
  | .info => "INFO"
  | .debug => "DEBUG"
  | .trace => "TRACE"

def ofName? : String -> Option LogLevel
  | "error" => some .error
  | "warn" => some .warn
  | "info" => some .info
  | "debug" => some .debug
  | "trace" => some .trace
  | _ => none

def severity : LogLevel -> Nat
  | .error => 1
  | .warn => 2
  | .info => 3
  | .debug => 4
  | .trace => 5

end LogLevel

structure LogLine where
  level : LogLevel
  text : String
  deriving DecidableEq, Repr

def LogLine.render (line : LogLine) : String :=
  line.level.label ++ " " ++ line.text

inductive Effect where
  | loaded
  | tpm (call : TpmCall)
  | log (line : LogLine)
  | asked (call : Call)
  | removesFile (path : String)
  deriving DecidableEq, Repr

namespace Effect

def error (text : String) : Effect := .log ⟨.error, text⟩

def warn (text : String) : Effect := .log ⟨.warn, text⟩

def info (text : String) : Effect := .log ⟨.info, text⟩

def debug (text : String) : Effect := .log ⟨.debug, text⟩

def logLines (effects : List Effect) : List LogLine :=
  effects.filterMap fun
    | .log line => some line
    | _ => none

def tpmCalls (effects : List Effect) : List TpmCall :=
  effects.filterMap fun
    | .tpm call => some call
    | _ => none

def callsAsked (effects : List Effect) : List Call :=
  effects.filterMap fun
    | .asked call => some call
    | _ => none

def removedFiles (effects : List Effect) : List String :=
  effects.filterMap fun
    | .removesFile path => some path
    | _ => none

def loads (effects : List Effect) : Nat :=
  effects.countP (· == .loaded)

end Effect

end SoleKey
