import SoleKey.Daemon.Program
import SoleKey.SoftwareTpm

set_option autoImplicit false

namespace SoleKey.Main

def usage : String :=
  "Usage: tpm-ssh-agent [OPTIONS]\n\n" ++
  "Options:\n" ++
  "  -c, --config <PATH>      Config file\n" ++
  "  -l, --listen <PATH>      Listen path\n" ++
  "      --key <PATH>         Key file\n" ++
  "      --log-level <LEVEL>  error, warn, info or debug\n" ++
  "      --log-file <PATH>    Log file\n" ++
  "  -h, --help               Print help\n" ++
  "  -V, --version            Print version"

def usageText : UsageProblem -> String
  | .helpWanted => usage
  | .versionWanted => Environment.appName ++ " " ++ Program.version
  | .unknownArgument => "error: unexpected argument\n\n" ++ usage
  | .invalidValue => "error: a value is missing or not valid\n\n" ++ usage
  | .repeatedOption => "error: an option is given twice\n\n" ++ usage
  | .unneededValue => "error: an option takes no value\n\n" ++ usage

def environment : IO Environment := do
  return ⟨(← IO.getEnv "HOME").getD "", ← IO.getEnv "XDG_DATA_HOME",
    ← IO.getEnv "XDG_CONFIG_HOME"⟩

def readBytes (path : String) : IO (Except SystemError Bytes) := do
  try
    return .ok (← IO.FS.readBinFile path).data.toList
  catch problem =>
    match problem with
    | .noFileOrDirectory .. => return .error .noSuchFile
    | .permissionDenied .. => return .error (.numbered 13)
    | .inappropriateType .. => return .error .isADirectory
    | other => return .error (.described .other (toString other))

-- A directory opens like a file and only then turns out to be unreadable.
def opened (found : Except SystemError Bytes) : Except SystemError FileSystem.Opened :=
  match found with
  | .ok content => .ok (.file content)
  | .error problem => if problem = .isADirectory then .ok .directory else .error problem

def writeLog (output : LogOutput) (effects : List Effect) : IO Unit := do
  let text := String.join ((output.select effects).map fun line => line.render ++ "\n")
  match output.file with
  | none => IO.eprint text
  | some path =>
    let handle ← IO.FS.Handle.mk path .append
    handle.putStr text

partial def serve (output : LogOutput) (keyPath : String) (connection : Connection) : IO Unit := do
  let content ← (← IO.getStdin).read 65536
  let load := StoredKey.load keyPath (← readBytes keyPath)
  let arrival : Connection.Arrival :=
    if content.isEmpty then .finished else .bytes content.data.toList
  let session := Session.ofAgent Agent.overStoredKey
  let (effects, next) := connection.arrive session load softwareTpm arrival
  writeLog output effects
  let replies ← IO.getStdout
  replies.write ⟨next.written.toArray⟩
  replies.flush
  match next.result? with
  | some result => writeLog output [Connection.endLine result]
  | none => serve output keyPath next.emptied

def fail (causes : List String) : IO UInt32 := do
  IO.eprintln ("Error: " ++ "\n  caused by: ".intercalate causes)
  return 1

def run (env : Environment) (config : Configuration) : IO UInt32 := do
  let output : LogOutput := ⟨config.logLevel, config.logFile⟩
  let keyPath := config.keyPath.getD env.defaultKeyPath
  writeLog output [.info Program.banner, .info ("Serving key from " ++ keyPath)]
  serve output keyPath (.start .unlimited)
  return 0

def configuration (env : Environment) (arguments : List String) :
    IO (Except ConfigurationError Configuration) := do
  match Configuration.commandLine arguments with
  | .error problem => return .error problem
  | .ok line =>
    let file ← readBytes (Configuration.filePath env line)
    return Configuration.ofCommandLine env line (opened file)

def execute (arguments : List String) : IO UInt32 := do
  let env ← environment
  match ← configuration env arguments with
  | .ok config =>
    try
      run env config
    catch problem =>
      fail [toString problem]
  | .error (.usage problem) =>
    if Program.prints problem then IO.println (usageText problem)
    else IO.eprintln (usageText problem)
    return UInt32.ofNat (Program.usageCode problem)
  | .error (.unreadable problem) => fail [problem.message]
  | .error .malformed => fail ["the configuration file is not a valid document"]

end SoleKey.Main

def main (arguments : List String) : IO UInt32 :=
  SoleKey.Main.execute arguments
