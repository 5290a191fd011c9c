import SoleKey.Effect

set_option autoImplicit false

namespace SoleKey

inductive OptionName where
  | config
  | listen
  | key
  | logLevel
  | logFile
  deriving DecidableEq, Repr

inductive UsageProblem where
  | helpWanted
  | versionWanted
  | unknownArgument
  | invalidValue
  | repeatedOption
  | unneededValue
  deriving DecidableEq, Repr

structure Settings where
  listenPath : Option String
  keyPath : Option String
  logLevel : Option LogLevel
  logFile : Option String
  deriving DecidableEq, Repr

-- A value is checked when the next option is met or the line ends, so an argument that is not known
-- is reported before a value that is not valid.
structure CommandLine where
  configPath : Option String
  settings : Settings
  deriving DecidableEq, Repr

def Settings.unset : Settings := ⟨none, none, none, none⟩

namespace CommandLine

def empty : CommandLine := ⟨none, Settings.unset⟩

inductive Flag where
  | help
  | version
  | takesValue (name : OptionName)
  deriving DecidableEq, Repr

def ofLong? : String -> Option Flag
  | "help" => some .help
  | "version" => some .version
  | "config" => some (.takesValue .config)
  | "listen" => some (.takesValue .listen)
  | "key" => some (.takesValue .key)
  | "log-level" => some (.takesValue .logLevel)
  | "log-file" => some (.takesValue .logFile)
  | _ => none

def ofShort? : Char -> Option Flag
  | 'h' => some .help
  | 'V' => some .version
  | 'c' => some (.takesValue .config)
  | 'l' => some (.takesValue .listen)
  | _ => none

def isGiven (line : CommandLine) : OptionName -> Bool
  | .config => line.configPath.isSome
  | .listen => line.settings.listenPath.isSome
  | .key => line.settings.keyPath.isSome
  | .logLevel => line.settings.logLevel.isSome
  | .logFile => line.settings.logFile.isSome

def path (value : String) : Except UsageProblem String :=
  if value.isEmpty then .error .invalidValue else .ok value

def level (value : String) : Except UsageProblem LogLevel :=
  match LogLevel.ofName? value with
  | some found => .ok found
  | none => .error .invalidValue

def set (line : CommandLine) (name : OptionName) (value : String) :
    Except UsageProblem CommandLine := do
  let settings := line.settings
  match name with
  | .config => return { line with configPath := some (← path value) }
  | .listen =>
    return { line with settings := { settings with listenPath := some (← path value) } }
  | .key => return { line with settings := { settings with keyPath := some (← path value) } }
  | .logLevel =>
    return { line with settings := { settings with logLevel := some (← level value) } }
  | .logFile => return { line with settings := { settings with logFile := some (← path value) } }

structure Pending where
  name : OptionName
  value : Option String
  deriving DecidableEq, Repr

structure Progress where
  line : CommandLine
  pending : Option Pending
  -- Whatever follows `--` is no option.
  onlyArguments : Bool
  deriving DecidableEq, Repr

def start : Progress := ⟨empty, none, false⟩

-- An option that is given twice is refused whatever its second value.
def accept (line : CommandLine) (name : OptionName) (value : String) :
    Except UsageProblem CommandLine :=
  if line.isGiven name then .error .repeatedOption else line.set name value

def resolve (progress : Progress) : Except UsageProblem CommandLine :=
  match progress.pending with
  | none => .ok progress.line
  | some ⟨_, none⟩ => .error .invalidValue
  | some ⟨name, some value⟩ => progress.line.accept name value

def begin (progress : Progress) (flag : Flag) (attached : Option String) :
    Except UsageProblem Progress := do
  let line ← resolve progress
  match flag, attached with
  | .help, _ => .error .helpWanted
  | .version, _ => .error .versionWanted
  | .takesValue name, some value => return ⟨← line.accept name value, none, false⟩
  | .takesValue name, none => return ⟨line, some ⟨name, none⟩, false⟩

def splitEquals (chars : List Char) : String × Option String :=
  match chars.span (· ≠ '=') with
  | (name, _ :: value) => (String.ofList name, some (String.ofList value))
  | (name, []) => (String.ofList name, none)

def long (progress : Progress) (chars : List Char) : Except UsageProblem Progress :=
  let (name, attached) := splitEquals chars
  match ofLong? name, attached with
  | none, _ => .error .unknownArgument
  | some .help, some _ | some .version, some _ => .error .unneededValue
  | some flag, attached => begin progress flag attached

-- Only the first letter counts: no option without a value lets the rest be read.
def short (progress : Progress) : List Char -> Except UsageProblem Progress
  | [] => .error .unknownArgument
  | letter :: rest =>
    match ofShort? letter, rest with
    | none, _ => .error .unknownArgument
    | some flag, [] => begin progress flag none
    | some flag, '=' :: value => begin progress flag (some (String.ofList value))
    | some flag, value => begin progress flag (some (String.ofList value))

def plain (progress : Progress) (argument : String) : Except UsageProblem Progress :=
  match progress.pending with
  | some ⟨name, none⟩ => .ok { progress with pending := some ⟨name, some argument⟩ }
  | _ => .error .unknownArgument

def step (progress : Progress) (argument : String) : Except UsageProblem Progress :=
  if progress.onlyArguments then .error .unknownArgument
  else
    match argument.toList with
    | ['-', '-'] => .ok { progress with onlyArguments := true }
    | '-' :: '-' :: name => long progress name
    | '-' :: letter :: rest => short progress (letter :: rest)
    | _ => plain progress argument

def parse (arguments : List String) : Except UsageProblem CommandLine := do
  resolve (← arguments.foldlM step start)

end CommandLine

end SoleKey
