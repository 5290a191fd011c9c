import SoleKey.Configuration
import SoleKey.Proofs.CommandLine

set_option autoImplicit false

namespace SoleKey

abbrev Choices := OptionName → Option String

namespace OptionName

-- Where the file is, it cannot choose.
def fileKey? : OptionName → Option String
  | .config => none
  | .listen => some "listen_path"
  | .key => some "key_path"
  | .logLevel => some "log_level"
  | .logFile => some "log_file"

def default? (env : Environment) : Choices
  | .config => some env.defaultConfigPath
  | .listen => some Environment.defaultListenPath
  | .logLevel => some "warn"
  | .key | .logFile => none

-- The home directory is put into paths, but not into that of the file.
def expand (env : Environment) : OptionName → String → String
  | .listen, path | .key, path | .logFile, path => Path.expandTilde env.home path
  | .config, text | .logLevel, text => text

end OptionName

def Configuration.value? (config : Configuration) : OptionName → Option String
  | .config => some config.configPath
  | .listen => some config.listenPath
  | .key => config.keyPath
  | .logLevel => some config.logLevel.name
  | .logFile => config.logFile

namespace Settings

open OptionName

/-- What a document chooses for an option, if it chooses nothing that it may not. -/
inductive Chooses (members : Toml.Members) : OptionName → Option String → Prop where
  | nowhere {name : OptionName} (unknown : name.fileKey? = none) : Chooses members name none
  | unset {name : OptionName} {key : String} (known : name.fileKey? = some key)
      (absent : members.lookup key = none) : Chooses members name none
  | path {name : OptionName} {key text : String} (known : name.fileKey? = some key)
      (isPath : name ≠ .logLevel) (there : members.lookup key = some (.string text)) :
      Chooses members name (some text)
  | level {node : Toml.Node} {level : LogLevel} (there : members.lookup "log_level" = some node)
      (names : levelOf? node = some level) : Chooses members .logLevel (some level.name)

/-- What the file chooses that was to be opened: nothing if it could not be. -/
inductive FileChooses : Except SystemError FileSystem.Opened → Choices → Prop where
  | unopened (problem : SystemError) {choices : Choices}
      (nothing : ∀ name, choices name = none) : FileChooses (.error problem) choices
  | document {content : Bytes} {text : String} {members : Toml.Members} {choices : Choices}
      (isText : Text.decode? content = some text) (parses : Toml.parse? text = some members)
      (each : ∀ name, Chooses members name (choices name)) :
      FileChooses (.ok (.file content)) choices

variable {members : Toml.Members} {name : OptionName} {key : String} {choices : Choices}
  {settings : Settings} {found : Except SystemError FileSystem.Opened}

theorem chooses_path_iff (known : name.fileKey? = some key) (isPath : name ≠ .logLevel)
    {chosen : Option String} : Chooses members name chosen ↔ textAt members key = .ok chosen := by
  constructor
  · intro chooses
    cases chooses with
    | nowhere unknown => simp [known] at unknown
    | unset knownToo absent =>
      obtain rfl := Option.some.inj (known.symm.trans knownToo)
      simp [textAt, absent]
    | path knownToo _ there =>
      obtain rfl := Option.some.inj (known.symm.trans knownToo)
      simp [textAt, there]
    | level => exact absurd rfl isPath
  · intro found
    unfold textAt at found
    split at found
    · rename_i absent
      obtain rfl := Except.ok.inj found
      exact .unset known absent
    · rename_i text there
      obtain rfl := Except.ok.inj found
      exact .path known isPath there
    · simp at found

theorem chooses_level_iff {chosen : Option String} : Chooses members .logLevel chosen ↔
    ∃ level, levelAt members "log_level" = .ok level ∧ chosen = level.map LogLevel.name := by
  constructor
  · intro chooses
    cases chooses with
    | nowhere unknown => simp [fileKey?] at unknown
    | unset known absent =>
      obtain rfl := Option.some.inj known
      exact ⟨none, by simp [levelAt, absent], rfl⟩
    | path _ isPath => exact absurd rfl isPath
    | @level node level there names => exact ⟨some level, by simp [levelAt, there, names], rfl⟩
  · rintro ⟨level, found, rfl⟩
    unfold levelAt at found
    split at found
    · rename_i absent
      obtain rfl := Except.ok.inj found
      exact .unset rfl absent
    · rename_i node there
      split at found
      · rename_i named names
        obtain rfl := Except.ok.inj found
        exact .level there names
      · simp at found

theorem chooses_config_iff {chosen : Option String} :
    Chooses members .config chosen ↔ chosen = none := by
  constructor
  · intro chooses
    cases chooses with
    | nowhere | unset => rfl
    | path known => simp [fileKey?] at known
  · rintro rfl
    exact .nowhere rfl

theorem ofMembers_eq_ok_iff :
    ofMembers members = .ok settings ↔ ∀ name, Chooses members name (settings.value? name) := by
  have fields : ofMembers members = .ok settings ↔
      textAt members "listen_path" = .ok settings.listenPath ∧
      textAt members "key_path" = .ok settings.keyPath ∧
      levelAt members "log_level" = .ok settings.logLevel ∧
      textAt members "log_file" = .ok settings.logFile := by
    obtain ⟨listenPath, keyPath, logLevel, logFile⟩ := settings
    simp only [ofMembers, bind_eq_ok_iff, Pure.pure, Except.pure, Except.ok.injEq,
      Settings.mk.injEq]
    constructor
    · rintro ⟨_, listen, _, key, _, level, _, file, rfl, rfl, rfl, rfl⟩
      exact ⟨listen, key, level, file⟩
    · rintro ⟨listen, key, level, file⟩
      exact ⟨_, listen, _, key, _, level, _, file, rfl, rfl, rfl, rfl⟩
  rw [fields]
  constructor
  · rintro ⟨listen, key, level, file⟩ name
    cases name with
    | config => exact chooses_config_iff.2 rfl
    | listen => exact (chooses_path_iff rfl (by simp)).2 listen
    | key => exact (chooses_path_iff rfl (by simp)).2 key
    | logLevel => exact chooses_level_iff.2 ⟨settings.logLevel, level, rfl⟩
    | logFile => exact (chooses_path_iff rfl (by simp)).2 file
  · intro each
    obtain ⟨level, found, same⟩ := chooses_level_iff.1 (each .logLevel)
    obtain rfl := Option.map_injective (fun _ _ => LogLevel.name_inj) same
    exact ⟨(chooses_path_iff rfl (by simp)).1 (each .listen),
      (chooses_path_iff rfl (by simp)).1 (each .key), found,
      (chooses_path_iff rfl (by simp)).1 (each .logFile)⟩

theorem exists_settings (each : ∀ name, Chooses members name (choices name)) :
    ∃ settings : Settings, settings.value? = choices := by
  obtain ⟨level, _, same⟩ := chooses_level_iff.1 (each .logLevel)
  refine ⟨⟨choices .listen, choices .key, level, choices .logFile⟩, funext fun name => ?_⟩
  cases name with
  | config => exact (chooses_config_iff.1 (each .config)).symm
  | logLevel => exact same.symm
  | listen | key | logFile => rfl

theorem value?_unset (name : OptionName) : Settings.unset.value? name = none := by
  cases name <;> rfl

theorem chooses_of_ofFile (read : ofFile found = .ok settings) :
    FileChooses found settings.value? := by
  cases found with
  | error problem =>
    obtain rfl := Except.ok.inj read
    exact .unopened problem value?_unset
  | ok opened =>
    cases opened with
    | directory => cases read
    | file content =>
      cases isText : Text.decode? content with
      | none => simp [ofFile, FileSystem.Opened.read, ofBytes, isText] at read
      | some text =>
        cases parses : Toml.parse? text with
        | none => simp [ofFile, FileSystem.Opened.read, ofBytes, isText, parses] at read
        | some members =>
          have chosen : ofMembers members = .ok settings := by
            simpa [ofFile, FileSystem.Opened.read, ofBytes, isText, parses] using read
          exact .document isText parses (ofMembers_eq_ok_iff.1 chosen)

theorem ofFile_of_chooses (chooses : FileChooses found choices) :
    ∃ settings, ofFile found = .ok settings ∧ settings.value? = choices := by
  cases chooses with
  | unopened problem nothing =>
    exact ⟨Settings.unset, rfl, funext fun name => (value?_unset name).trans (nothing name).symm⟩
  | @document content text members choices isText parses each =>
    obtain ⟨settings, rfl⟩ := exists_settings each
    have chosen := ofMembers_eq_ok_iff.2 each
    exact ⟨settings, by simp [ofFile, FileSystem.Opened.read, ofBytes, isText, parses, chosen], rfl⟩

def IsFileError (problem : ConfigurationError) : Prop :=
  problem = .malformed ∨ ∃ cause, problem = .unreadable cause

theorem error_of_textAt {problem : ConfigurationError}
    (failed : textAt members key = .error problem) : problem = .malformed := by
  unfold textAt at failed
  split at failed <;> simp_all

theorem error_of_levelAt {problem : ConfigurationError}
    (failed : levelAt members key = .error problem) : problem = .malformed := by
  unfold levelAt at failed
  split at failed
  · simp at failed
  · split at failed <;> simp_all

theorem error_of_ofMembers {problem : ConfigurationError}
    (failed : ofMembers members = .error problem) : problem = .malformed := by
  simp only [ofMembers, bind_eq_error_iff, Pure.pure, Except.pure, reduceCtorEq, and_false,
    exists_false, or_false] at failed
  rcases failed with listen | ⟨_, _, key | ⟨_, _, level | ⟨_, _, file⟩⟩⟩
  · exact error_of_textAt listen
  · exact error_of_textAt key
  · exact error_of_levelAt level
  · exact error_of_textAt file

theorem error_of_ofFile {problem : ConfigurationError} (failed : ofFile found = .error problem) :
    IsFileError problem := by
  unfold ofFile at failed
  split at failed
  · simp at failed
  · split at failed
    · obtain rfl := Except.error.inj failed
      exact .inr ⟨_, rfl⟩
    · unfold ofBytes at failed
      split at failed
      · obtain rfl := Except.error.inj failed
        exact .inr ⟨_, rfl⟩
      · split at failed
        · obtain rfl := Except.error.inj failed
          exact .inl rfl
        · exact .inl (error_of_ofMembers failed)

theorem ofFile_empty (problem : SystemError) :
    ofFile (.error problem) = ofFile (.ok (.file [])) := by
  have empty : Text.decode? [] = some "" := Text.decode?_encode ""
  have nothing : Toml.parse? "" = some [] := rfl
  simp only [ofFile, FileSystem.Opened.read, ofBytes, empty, nothing]
  rfl

end Settings

namespace Configuration

open OptionName

variable {env : Environment} {found : Except SystemError FileSystem.Opened}
  {choices : Choices}

theorem value?_ofSettings (line : CommandLine) (fromFile : Settings) (name : OptionName) :
    (ofSettings env (filePath env line) (line.settings.orElse fromFile)).value? name =
      (((line.value? name).or (fromFile.value? name)).or (name.default? env)).map
        (name.expand env) := by
  obtain ⟨configPath, listenPath, keyPath, logLevel, logFile⟩ := line
  obtain ⟨listenToo, keyToo, levelToo, fileToo⟩ := fromFile
  cases name with
  | config => cases configPath <;> rfl
  | listen =>
    cases listenPath <;> cases listenToo <;>
      simp [value?, ofSettings, Settings.orElse, CommandLine.value?, Settings.value?, default?,
        expand]
  | key => cases keyPath <;> cases keyToo <;> rfl
  | logLevel => cases logLevel <;> cases levelToo <;> rfl
  | logFile => cases logFile <;> cases fileToo <;> rfl

theorem ofCommandLine_of_chooses (env : Environment) (line : CommandLine)
    (chooses : Settings.FileChooses found choices) :
    ∃ config, ofCommandLine env line found = .ok config ∧ ∀ name, config.value? name =
      (((line.value? name).or (choices name)).or (name.default? env)).map (name.expand env) := by
  obtain ⟨fromFile, read, rfl⟩ := Settings.ofFile_of_chooses chooses
  refine ⟨_, ?_, value?_ofSettings line fromFile⟩
  simp [ofCommandLine, read, Bind.bind, Except.bind, Pure.pure, Except.pure]

theorem ofCommandLine_of_none (env : Environment) (line : CommandLine)
    (refuses : ∀ choices, ¬Settings.FileChooses found choices) :
    ∃ problem, ofCommandLine env line found = .error problem ∧ Settings.IsFileError problem := by
  cases read : Settings.ofFile found with
  | ok settings => exact absurd (Settings.chooses_of_ofFile read) (refuses _)
  | error problem =>
    refine ⟨problem, ?_, Settings.error_of_ofFile read⟩
    simp [ofCommandLine, read, Bind.bind, Except.bind]

inductive Makes (env : Environment) (given : List (OptionName × String)) (choices : Choices)
    (config : Configuration) : Prop where
  | of {arguments : List String} {line : CommandLine}
      {found : Except SystemError FileSystem.Opened}
      (parsed : CommandLine.parse arguments = .ok line)
      (accepted : CommandLine.Accepted arguments given)
      (chooses : Settings.FileChooses found choices)
      (made : ofCommandLine env line found = .ok config) : Makes env given choices config

theorem Makes.layered {given : List (OptionName × String)} {config : Configuration}
    (makes : Makes env given choices config) (name : OptionName) :
    config.value? name =
      (((given.lookup name).or (choices name)).or (name.default? env)).map (name.expand env) := by
  obtain @⟨_, line, _, parsed, accepted, chooses, made⟩ := makes
  obtain ⟨_, again, layered⟩ := ofCommandLine_of_chooses env line chooses
  obtain rfl := Except.ok.inj (made.symm.trans again)
  rw [layered name, accepted.values parsed name]

/-- How the options of a command line and what a file chooses make a configuration. -/
structure Layered (env : Environment) (arguments : List String) (line : CommandLine)
    (given : List (OptionName × String)) : Prop where
  -- The file is looked for where the command line says, or else at its usual place.
  loads : ∀ files : FileSystem, load env files arguments =
    ofCommandLine env line (files.openFile ((given.lookup .config).getD env.defaultConfigPath))
  chosen : ∀ found choices, Settings.FileChooses found choices →
    ∃ config, ofCommandLine env line found = .ok config ∧ ∀ name, config.value? name =
      (((given.lookup name).or (choices name)).or (name.default? env)).map (name.expand env)
  refused : ∀ found, (∀ choices, ¬Settings.FileChooses found choices) →
    ∃ problem, ofCommandLine env line found = .error problem ∧ Settings.IsFileError problem
  unopened : ∀ problem,
    ofCommandLine env line (.error problem) = ofCommandLine env line (.ok (.file []))
  -- Whatever else differs, an option comes out the same if it is chosen the same.
  apart : ∀ choices config otherGiven otherChoices other, Makes env given choices config →
    Makes env otherGiven otherChoices other → ∀ name, given.lookup name = otherGiven.lookup name →
      choices name = otherChoices name → config.value? name = other.value? name

theorem each_option_is_layered {arguments : List String} {line : CommandLine} (env : Environment)
    (parsed : CommandLine.parse arguments = .ok line) :
    (∃ given, CommandLine.Accepted arguments given) ∧
      ∀ given, CommandLine.Accepted arguments given → Layered env arguments line given := by
  obtain ⟨given, accepted, _⟩ := CommandLine.parse_eq_ok_iff.1 parsed
  refine ⟨⟨given, accepted⟩, fun given accepted => ?_⟩
  have values := accepted.values parsed
  exact
    { loads := by
        intro files
        have read : commandLine arguments = .ok line := mapError_eq_ok_iff.2 parsed
        rw [← values .config, load, read]
        rfl
      chosen := by
        intro found choices chooses
        obtain ⟨config, made, _⟩ := ofCommandLine_of_chooses env line chooses
        exact ⟨config, made, (Makes.of parsed accepted chooses made).layered⟩
      refused := fun found refuses => ofCommandLine_of_none env line refuses
      unopened := by
        intro problem
        rw [ofCommandLine, Settings.ofFile_empty]
        rfl
      apart := by
        intro choices config otherGiven otherChoices other makes makesToo name sameGiven sameChoice
        rw [makes.layered, makesToo.layered, sameGiven, sameChoice] }

-- The key is chosen twice, the level and the log file by the file only.
theorem command_line_goes_before_file :
    let env : Environment := ⟨"/home/ann", none, none⟩
    let arguments := ["--key=~/k", "-c", "~/conf", "-l~/a.sock"]
    let line : CommandLine := ⟨some "~/conf", ⟨some "~/a.sock", some "~/k", none, none⟩⟩
    let file := Text.encode
      "log_level = \"debug\"\nkey_path = \"~/other\"\nlog_file = \"~/log\"\n"
    CommandLine.parse arguments = .ok line ∧
      (∃ given, CommandLine.Accepted arguments given ∧ Layered env arguments line given) ∧
      ofCommandLine env line (.ok (.file file)) =
        .ok ⟨"~/conf", "/home/ann/a.sock", some "/home/ann/k", .debug, some "/home/ann/log"⟩ := by
  intro env arguments line file
  have parsed : CommandLine.parse arguments = .ok line := by decide +kernel
  obtain ⟨⟨given, accepted⟩, layered⟩ := each_option_is_layered env parsed
  exact ⟨parsed, ⟨given, accepted, layered given accepted⟩, by decide +kernel⟩

end Configuration

end SoleKey
