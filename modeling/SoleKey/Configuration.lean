import SoleKey.CommandLine
import SoleKey.FileSystem.Operations
import SoleKey.Locations
import SoleKey.Text.Utf8
import SoleKey.Toml.Document

set_option autoImplicit false

namespace SoleKey

inductive ConfigurationError where
  | usage (problem : UsageProblem)
  | unreadable (problem : SystemError)
  | malformed
  deriving DecidableEq, Repr

structure Configuration where
  configPath : String
  listenPath : String
  keyPath : Option String
  logLevel : LogLevel
  logFile : Option String
  deriving DecidableEq, Repr

namespace Settings

def defaultLogLevel : LogLevel := .warn

def orElse (first second : Settings) : Settings where
  listenPath := first.listenPath <|> second.listenPath
  keyPath := first.keyPath <|> second.keyPath
  logLevel := first.logLevel <|> second.logLevel
  logFile := first.logFile <|> second.logFile

/-- The text under a key. Anything else under that key is a mistake. -/
def textAt (members : Toml.Members) (key : String) : Except ConfigurationError (Option String) :=
  match members.lookup key with
  | none => .ok none
  | some (.string text) => .ok (some text)
  | some _ => .error .malformed

def isEmptyNode : Toml.Node -> Bool
  | .table _ [] | .array [] | .tables [] => true
  | _ => false

/-- A level is named by a text, or by the only key of a table, with nothing under it. -/
def levelOf? : Toml.Node -> Option LogLevel
  | .string name => LogLevel.ofName? name
  | .table _ [(name, node)] => if isEmptyNode node then LogLevel.ofName? name else none
  | _ => none

def levelAt (members : Toml.Members) (key : String) :
    Except ConfigurationError (Option LogLevel) :=
  match members.lookup key with
  | none => .ok none
  | some node =>
    match levelOf? node with
    | some level => .ok (some level)
    | none => .error .malformed

def ofMembers (members : Toml.Members) : Except ConfigurationError Settings := do
  return {
    listenPath := ← textAt members "listen_path"
    keyPath := ← textAt members "key_path"
    logLevel := ← levelAt members "log_level"
    logFile := ← textAt members "log_file" }

def notText : SystemError :=
  .described .invalidData "stream did not contain valid UTF-8"

def ofBytes (content : Bytes) : Except ConfigurationError Settings :=
  match Text.decode? content with
  | none => .error (.unreadable notText)
  | some text =>
    match Toml.parse? text with
    | none => .error .malformed
    | some members => ofMembers members

def ofFile (found : Except SystemError FileSystem.Opened) : Except ConfigurationError Settings :=
  match found with
  | .error _ => .ok Settings.unset
  | .ok opened =>
    match opened.read with
    | .error problem => .error (.unreadable problem)
    | .ok content => ofBytes content

end Settings

namespace Configuration

def ofSettings (env : Environment) (configPath : String) (settings : Settings) : Configuration :=
  let expand := Path.expandTilde env.home
  { configPath := configPath
    listenPath := expand (settings.listenPath.getD Environment.defaultListenPath)
    keyPath := settings.keyPath.map expand
    logLevel := settings.logLevel.getD Settings.defaultLogLevel
    logFile := settings.logFile.map expand }

def filePath (env : Environment) (line : CommandLine) : String :=
  line.configPath.getD env.defaultConfigPath

def ofCommandLine (env : Environment) (line : CommandLine)
    (file : Except SystemError FileSystem.Opened) : Except ConfigurationError Configuration := do
  let fromFile ← Settings.ofFile file
  return ofSettings env (filePath env line) (line.settings.orElse fromFile)

def commandLine (arguments : List String) : Except ConfigurationError CommandLine :=
  (CommandLine.parse arguments).mapError .usage

def load (env : Environment) (files : FileSystem) (arguments : List String) :
    Except ConfigurationError Configuration := do
  let line ← commandLine arguments
  ofCommandLine env line (files.openFile (filePath env line))

end Configuration

end SoleKey
