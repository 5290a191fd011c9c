import SoleKey.CommandLine
import SoleKey.Proofs.Except
import Mathlib.Data.List.TakeDrop

set_option autoImplicit false

namespace SoleKey

namespace OptionName

def longName : OptionName → String
  | .config => "config"
  | .listen => "listen"
  | .key => "key"
  | .logLevel => "log-level"
  | .logFile => "log-file"

def letter? : OptionName → Option Char
  | .config => some 'c'
  | .listen => some 'l'
  | .key | .logLevel | .logFile => none

def Takes : OptionName → String → Prop
  | .logLevel, value => ∃ level : LogLevel, level.name = value
  | .config, value | .listen, value | .key, value | .logFile, value => value ≠ ""

end OptionName

namespace LogLevel

theorem ofName?_eq_some_iff {name : String} {level : LogLevel} :
    ofName? name = some level ↔ level.name = name := by
  constructor
  · intro found
    unfold ofName? at found
    split at found <;> simp_all [LogLevel.name]
    all_goals subst found; rfl
  · rintro rfl
    cases level <;> rfl

theorem name_inj {level other : LogLevel} (same : level.name = other.name) : level = other := by
  have found := ofName?_eq_some_iff.2 same
  rw [ofName?_eq_some_iff.2 rfl] at found
  exact (Option.some.inj found).symm

end LogLevel

def Settings.value? (settings : Settings) : OptionName → Option String
  | .config => none
  | .listen => settings.listenPath
  | .key => settings.keyPath
  | .logLevel => settings.logLevel.map LogLevel.name
  | .logFile => settings.logFile

namespace CommandLine

open OptionName

def value? (line : CommandLine) : OptionName → Option String
  | .config => line.configPath
  | name => line.settings.value? name

/-- An argument that names an option, and may have the value behind it. -/
inductive Spells (name : OptionName) : Option String → List Char → Prop where
  | long : Spells name none ('-' :: '-' :: name.longName.toList)
  | longWith (value : String) :
      Spells name (some value) ('-' :: '-' :: (name.longName.toList ++ '=' :: value.toList))
  | short {letter : Char} (known : name.letter? = some letter) : Spells name none ['-', letter]
  | shortWith {letter : Char} (known : name.letter? = some letter) (value : String) :
      Spells name (some value) ('-' :: letter :: '=' :: value.toList)
  | joined {letter : Char} (known : name.letter? = some letter) {value : String}
      (nonempty : value ≠ "") (separate : value.toList.head? ≠ some '=') :
      Spells name (some value) ('-' :: letter :: value.toList)

/-- Arguments that are no option: a single `-` is one of them. -/
def IsPlain (argument : List Char) : Prop :=
  argument.head? = some '-' → argument = ['-']

inductive Reading : List String → List (OptionName × String) → Prop where
  | nil : Reading [] []
  | separator : Reading ["--"] []
  | attached {name : OptionName} {value argument : String} {arguments : List String}
      {given : List (OptionName × String)} (spells : Spells name (some value) argument.toList)
      (rest : Reading arguments given) :
      Reading (argument :: arguments) ((name, value) :: given)
  | apart {name : OptionName} {value argument : String} {arguments : List String}
      {given : List (OptionName × String)} (spells : Spells name none argument.toList)
      (plain : IsPlain value.toList) (rest : Reading arguments given) :
      Reading (argument :: value :: arguments) ((name, value) :: given)

theorem span_equals (before after : List Char) (one : '=' ∉ before)
    (stops : ∀ char ∈ after.head?, char = '=') :
    (before ++ after).span (· ≠ '=') = (before, after) := by
  rw [List.span_eq_takeWhile_dropWhile]
  induction before with
  | nil => cases after <;> simp_all
  | cons first rest ih =>
    have other : first ≠ '=' := fun same => one (by simp [same])
    simp_all

theorem exists_span_equals (chars : List Char) : ∃ before after,
    chars.span (· ≠ '=') = (before, after) ∧ chars = before ++ after ∧
      ∀ char ∈ after.head?, char = '=' := by
  refine ⟨_, _, List.span_eq_takeWhile_dropWhile .., List.takeWhile_append_dropWhile.symm, ?_⟩
  intro char there
  have stops := List.head?_dropWhile_not (fun char : Char => decide (char ≠ '=')) chars
  simp_all

theorem splitEquals_name {chars : List Char} (one : '=' ∉ chars) :
    splitEquals chars = (String.ofList chars, none) := by
  have split := span_equals chars [] one (by simp)
  rw [List.append_nil] at split
  rw [splitEquals, split]

theorem splitEquals_value {chars : List Char} (one : '=' ∉ chars) (value : List Char) :
    splitEquals (chars ++ '=' :: value) = (String.ofList chars, some (String.ofList value)) := by
  have split := span_equals chars ('=' :: value) one (by simp)
  rw [splitEquals, split]

theorem splitEquals_eq {chars : List Char} {name : String} {attached : Option String}
    (found : splitEquals chars = (name, attached)) :
    chars = name.toList ++ (attached.elim [] fun value => '=' :: value.toList) := by
  obtain ⟨before, after, split, rfl, stops⟩ := exists_span_equals chars
  rw [splitEquals, split] at found
  cases after with
  | nil =>
    obtain ⟨rfl, rfl⟩ := Prod.mk.inj found
    simp
  | cons char value =>
    obtain ⟨rfl, rfl⟩ := Prod.mk.inj found
    obtain rfl := stops char rfl
    simp

theorem ofLong?_longName (name : OptionName) : ofLong? name.longName = some (.takesValue name) := by
  cases name <;> rfl

theorem eq_longName {text : String} {name : OptionName}
    (found : ofLong? text = some (.takesValue name)) : text = name.longName := by
  unfold ofLong? at found
  split at found <;> simp_all
  all_goals subst found; rfl

theorem ofShort?_eq_some_iff {letter : Char} {name : OptionName} :
    ofShort? letter = some (.takesValue name) ↔ name.letter? = some letter := by
  constructor
  · intro found
    unfold ofShort? at found
    split at found <;> simp_all
    all_goals subst found; rfl
  · intro known
    cases name <;> simp_all [letter?]
    all_goals subst known; rfl

theorem equals_not_mem_longName (name : OptionName) : '=' ∉ name.longName.toList := by
  cases name <;> decide

theorem longName_ne_nil (name : OptionName) : name.longName.toList ≠ [] := by
  cases name <;> decide

theorem letter_ne {name : OptionName} {letter : Char} (known : name.letter? = some letter) :
    letter ≠ '-' ∧ letter ≠ '=' := by
  cases name <;> simp [letter?] at known <;> subst known <;> decide

section

variable {progress next : Progress} {argument : String} {name : OptionName}
  {attached : Option String}

theorem step_long {chars : List Char} (spelled : argument.toList = '-' :: '-' :: chars)
    (nonempty : chars ≠ []) (options : progress.onlyArguments = false) :
    step progress argument = long progress chars := by
  obtain ⟨first, rest, rfl⟩ := List.exists_cons_of_ne_nil nonempty
  simp [step, options, spelled]

theorem step_short {letter : Char} {rest : List Char}
    (spelled : argument.toList = '-' :: letter :: rest) (letters : letter ≠ '-')
    (options : progress.onlyArguments = false) :
    step progress argument = short progress (letter :: rest) := by
  simp [step, options, spelled, letters]

theorem step_plain (plain : IsPlain argument.toList) (options : progress.onlyArguments = false) :
    step progress argument = CommandLine.plain progress argument := by
  unfold step
  rw [if_neg (by simp [options])]
  split
  · rename_i spelled
    simp [IsPlain, spelled] at plain
  · rename_i spelled
    simp [IsPlain, spelled] at plain
  · rename_i spelled
    simp [IsPlain, spelled] at plain
  · rfl

theorem step_spells (spells : Spells name attached argument.toList)
    (options : progress.onlyArguments = false) :
    step progress argument = begin progress (.takesValue name) attached := by
  have only := equals_not_mem_longName name
  have nonempty := longName_ne_nil name
  generalize spelled : argument.toList = chars at spells
  cases spells with
  | long =>
    rw [step_long spelled nonempty options, long, splitEquals_name only]
    simp [ofLong?_longName]
  | longWith value =>
    rw [step_long spelled (by simp) options, long, splitEquals_value only]
    simp [ofLong?_longName]
  | short known =>
    rw [step_short spelled (letter_ne known).1 options]
    simp [CommandLine.short, ofShort?_eq_some_iff.2 known]
  | shortWith known value =>
    rw [step_short spelled (letter_ne known).1 options]
    simp [CommandLine.short, ofShort?_eq_some_iff.2 known]
  | @joined letter known value nonempty separate =>
    obtain ⟨first, rest, whole⟩ := List.exists_cons_of_ne_nil
      (fun empty => nonempty (String.toList_eq_nil_iff.1 empty) : value.toList ≠ [])
    have other : first ≠ '=' := by simpa [whole] using separate
    have same : String.ofList (first :: rest) = value := by rw [← whole, String.ofList_toList]
    rw [step_short spelled (letter_ne known).1 options, whole]
    simp [CommandLine.short, ofShort?_eq_some_iff.2 known, other, same]

inductive Step (progress : Progress) (argument : String) : Progress → Prop where
  | separator (spelled : argument = "--") :
      Step progress argument { progress with onlyArguments := true }
  | spells {name : OptionName} {attached : Option String} {next : Progress}
      (spells : Spells name attached argument.toList)
      (begun : begin progress (.takesValue name) attached = .ok next) :
      Step progress argument next
  | plain {name : OptionName} (plain : IsPlain argument.toList)
      (waits : progress.pending = some ⟨name, none⟩) :
      Step progress argument { progress with pending := some ⟨name, some argument⟩ }

theorem takesValue_of_begin {flag : Flag} (begun : begin progress flag attached = .ok next) :
    ∃ name, flag = .takesValue name := by
  obtain ⟨line, _, continued⟩ := bind_eq_ok_iff.1 begun
  cases flag with
  | help => simp at continued
  | version => simp at continued
  | takesValue name => exact ⟨name, rfl⟩

theorem spells_of_long {chars : List Char} (read : long progress chars = .ok next) :
    ∃ name attached, Spells name attached ('-' :: '-' :: chars) ∧
      begin progress (.takesValue name) attached = .ok next := by
  unfold CommandLine.long at read
  rcases split : splitEquals chars with ⟨text, attached⟩
  rw [split] at read
  have whole := splitEquals_eq split
  cases known : ofLong? text with
  | none => simp [known] at read
  | some flag =>
    have begun : begin progress flag attached = .ok next := by
      cases flag <;> cases attached <;> simp [known] at read <;> exact read
    obtain ⟨name, rfl⟩ := takesValue_of_begin begun
    obtain rfl := eq_longName known
    refine ⟨name, attached, ?_, begun⟩
    rw [whole]
    cases attached with
    | none => simpa using Spells.long
    | some value => exact .longWith value

theorem spells_of_short {letter : Char} {rest : List Char}
    (read : short progress (letter :: rest) = .ok next) :
    ∃ name attached, Spells name attached ('-' :: letter :: rest) ∧
      begin progress (.takesValue name) attached = .ok next := by
  cases known : ofShort? letter with
  | none => simp [CommandLine.short, known] at read
  | some flag =>
    cases rest with
    | nil =>
      have begun : begin progress flag none = .ok next := by
        simpa [CommandLine.short, known] using read
      obtain ⟨name, rfl⟩ := takesValue_of_begin begun
      exact ⟨name, none, .short (ofShort?_eq_some_iff.1 known), begun⟩
    | cons first value =>
      by_cases equals : first = '='
      · subst equals
        have begun : begin progress flag (some (String.ofList value)) = .ok next := by
          simpa [CommandLine.short, known] using read
        obtain ⟨name, rfl⟩ := takesValue_of_begin begun
        have spells := Spells.shortWith (ofShort?_eq_some_iff.1 known) (String.ofList value)
        rw [String.toList_ofList] at spells
        exact ⟨name, _, spells, begun⟩
      · have begun : begin progress flag (some (String.ofList (first :: value))) = .ok next := by
          simpa [CommandLine.short, known, equals] using read
        obtain ⟨name, rfl⟩ := takesValue_of_begin begun
        have whole : (String.ofList (first :: value)).toList = first :: value :=
          String.toList_ofList
        have nonempty : String.ofList (first :: value) ≠ "" := fun empty => by simp [empty] at whole
        have spells := Spells.joined (ofShort?_eq_some_iff.1 known) nonempty
          (by simpa [whole] using equals)
        rw [whole] at spells
        exact ⟨name, _, spells, begun⟩

theorem step_inv (stepped : step progress argument = .ok next) :
    progress.onlyArguments = false ∧ Step progress argument next := by
  unfold step at stepped
  split at stepped
  · simp at stepped
  · rename_i options
    refine ⟨by simpa using options, ?_⟩
    split at stepped
    · rename_i spelled
      obtain rfl := Except.ok.inj stepped
      exact .separator (String.toList_inj.1 (by rw [spelled]; rfl))
    · rename_i chars spelled
      obtain ⟨name, attached, spells, begun⟩ := spells_of_long stepped
      exact .spells (spelled ▸ spells) begun
    · rename_i letter rest spelled
      obtain ⟨name, attached, spells, begun⟩ := spells_of_short stepped
      exact .spells (spelled ▸ spells) begun
    · rename_i noSeparator noLong noShort
      have plain : IsPlain argument.toList := by
        intro dash
        obtain ⟨rest, spelled⟩ := List.head?_eq_some_iff.1 dash
        cases rest with
        | nil => exact spelled
        | cons letter rest => exact absurd spelled (noShort letter rest)
      unfold CommandLine.plain at stepped
      split at stepped
      · rename_i name waits
        obtain rfl := Except.ok.inj stepped
        exact .plain plain waits
      · simp at stepped

end

def finish (progress : Progress) (arguments : List String) : Except UsageProblem CommandLine := do
  resolve (← arguments.foldlM step progress)

def acceptAll (line : CommandLine) (given : List (OptionName × String)) :
    Except UsageProblem CommandLine :=
  given.foldlM (fun line option => line.accept option.1 option.2) line

def Progress.Settled (progress : Progress) : Prop :=
  progress.onlyArguments = false ∧ ∀ name, progress.pending ≠ some ⟨name, none⟩

variable {progress : Progress} {line earlier : CommandLine} {name : OptionName} {argument : String}
  {arguments : List String} {given : List (OptionName × String)}

theorem finish_cons (progress : Progress) (argument : String) (arguments : List String) :
    finish progress (argument :: arguments) =
      step progress argument >>= fun next => finish next arguments := by
  simp [finish]

theorem acceptAll_cons (line : CommandLine) (name : OptionName) (value : String)
    (given : List (OptionName × String)) :
    acceptAll line ((name, value) :: given) =
      line.accept name value >>= fun next => acceptAll next given := by
  simp [acceptAll]

theorem begin_attached (name : OptionName) (value : String)
    (resolved : resolve progress = .ok line) :
    begin progress (.takesValue name) (some value) =
      line.accept name value >>= fun next => .ok ⟨next, none, false⟩ := by
  simp [begin, resolved, Bind.bind, Except.bind, Pure.pure, Except.pure]

theorem begin_apart (name : OptionName) (resolved : resolve progress = .ok line) :
    begin progress (.takesValue name) none = .ok ⟨line, some ⟨name, none⟩, false⟩ := by
  simp [begin, resolved, Bind.bind, Except.bind, Pure.pure, Except.pure]

theorem finish_of_reading (reading : Reading arguments given) (settled : progress.Settled)
    (resolved : resolve progress = .ok earlier) (accepted : acceptAll earlier given = .ok line) :
    finish progress arguments = .ok line := by
  induction reading generalizing progress earlier with
  | nil =>
    obtain rfl := Except.ok.inj accepted
    exact resolved
  | separator =>
    obtain rfl := Except.ok.inj accepted
    rw [finish_cons, step, if_neg (by simp [settled.1])]
    exact resolved
  | @attached name value argument arguments given spells rest ih =>
    rw [acceptAll_cons] at accepted
    obtain ⟨next, acceptedNow, acceptedLater⟩ := bind_eq_ok_iff.1 accepted
    rw [finish_cons, step_spells spells settled.1, begin_attached name value resolved, acceptedNow]
    have settledNow : Progress.Settled ⟨next, none, false⟩ := ⟨rfl, by simp⟩
    exact ih settledNow rfl acceptedLater
  | @apart name value argument arguments given spells plain rest ih =>
    rw [acceptAll_cons] at accepted
    obtain ⟨next, acceptedNow, acceptedLater⟩ := bind_eq_ok_iff.1 accepted
    rw [finish_cons, step_spells spells settled.1, begin_apart name resolved]
    show finish _ (value :: arguments) = _
    rw [finish_cons, step_plain plain rfl]
    have settledNow : Progress.Settled ⟨earlier, some ⟨name, some value⟩, false⟩ := ⟨rfl, by simp⟩
    exact ih settledNow acceptedNow acceptedLater

theorem finish_onlyArguments (only : progress.onlyArguments = true)
    (finished : finish progress arguments = .ok line) :
    arguments = [] ∧ resolve progress = .ok line := by
  cases arguments with
  | nil => exact ⟨rfl, finished⟩
  | cons argument rest =>
    rw [finish_cons, step, if_pos only] at finished
    cases finished

structure Completes (arguments : List String) (line : CommandLine) : Prop where
  settled : ∀ progress, progress.Settled → finish progress arguments = .ok line →
    ∃ earlier given, Reading arguments given ∧ resolve progress = .ok earlier ∧
      acceptAll earlier given = .ok line
  waiting : ∀ earlier name, finish ⟨earlier, some ⟨name, none⟩, false⟩ arguments = .ok line →
    ∃ value rest given, arguments = value :: rest ∧ IsPlain value.toList ∧ Reading rest given ∧
      acceptAll earlier ((name, value) :: given) = .ok line

-- An option named apart leaves the reader waiting and its value settles it again, so each of
-- the two needs the other one of what follows.
theorem completes_cons (later : Completes arguments line) (argument : String) :
    Completes (argument :: arguments) line where
  settled := by
    intro progress settled finished
    rw [finish_cons] at finished
    obtain ⟨next, stepped, finishedLater⟩ := bind_eq_ok_iff.1 finished
    cases (step_inv stepped).2 with
    | separator spelled =>
      obtain ⟨rfl, resolved⟩ := finish_onlyArguments rfl finishedLater
      exact ⟨line, [], spelled ▸ .separator, resolved, rfl⟩
    | @spells name attached _ spells begun =>
      obtain ⟨earlier, resolved, _⟩ := bind_eq_ok_iff.1 begun
      cases attached with
      | some value =>
        rw [begin_attached name value resolved] at begun
        obtain ⟨accepted, acceptedNow, same⟩ := bind_eq_ok_iff.1 begun
        obtain rfl := Except.ok.inj same
        obtain ⟨_, given, reading, resolvedToo, acceptedLater⟩ :=
          later.settled _ ⟨rfl, by simp⟩ finishedLater
        obtain rfl := Except.ok.inj resolvedToo
        refine ⟨earlier, (name, value) :: given, .attached spells reading, resolved, ?_⟩
        rw [acceptAll_cons, acceptedNow]
        exact acceptedLater
      | none =>
        rw [begin_apart name resolved] at begun
        obtain rfl := Except.ok.inj begun
        obtain ⟨value, rest, given, rfl, plain, reading, accepted⟩ :=
          later.waiting earlier name finishedLater
        exact ⟨earlier, (name, value) :: given, .apart spells plain reading, resolved, accepted⟩
    | plain _ waits => exact absurd waits (settled.2 _)
  waiting := by
    intro earlier name finished
    rw [finish_cons] at finished
    obtain ⟨next, stepped, finishedLater⟩ := bind_eq_ok_iff.1 finished
    cases (step_inv stepped).2 with
    | separator =>
      obtain ⟨_, resolved⟩ := finish_onlyArguments rfl finishedLater
      cases resolved
    | spells _ begun => cases begun
    | plain plain waits =>
      obtain ⟨rfl, _⟩ := Pending.mk.inj (Option.some.inj waits)
      obtain ⟨accepted, given, reading, acceptedNow, acceptedLater⟩ :=
        later.settled _ ⟨rfl, by simp⟩ finishedLater
      refine ⟨argument, arguments, given, rfl, plain, reading, ?_⟩
      rw [acceptAll_cons, show earlier.accept name argument = .ok accepted from acceptedNow]
      exact acceptedLater

theorem completes (arguments : List String) (line : CommandLine) : Completes arguments line := by
  induction arguments with
  | nil =>
    exact
      { settled := fun progress _ finished => ⟨line, [], .nil, finished, rfl⟩
        waiting := fun earlier name finished => by cases finished }
  | cons argument rest ih => exact completes_cons ih argument

theorem parse_eq_ok_iff_reading :
    parse arguments = .ok line ↔
      ∃ given, Reading arguments given ∧ acceptAll empty given = .ok line := by
  have settled : start.Settled := ⟨rfl, by simp [start]⟩
  constructor
  · intro parsed
    obtain ⟨earlier, given, reading, resolved, accepted⟩ :=
      (completes arguments line).settled start settled parsed
    obtain rfl := Except.ok.inj resolved
    exact ⟨given, reading, accepted⟩
  · rintro ⟨given, reading, accepted⟩
    exact finish_of_reading reading settled rfl accepted

section

variable {value : String} {next final : CommandLine}

theorem path_eq_ok_iff {found : String} : path value = .ok found ↔ value ≠ "" ∧ found = value := by
  by_cases empty : value = ""
  · simp [path, empty]
  · simpa [path, empty] using eq_comm

theorem level_eq_ok_iff {found : LogLevel} : level value = .ok found ↔ found.name = value := by
  rw [← LogLevel.ofName?_eq_some_iff, level]
  cases LogLevel.ofName? value <;> simp

theorem isGiven_eq_false_iff : line.isGiven name = false ↔ line.value? name = none := by
  cases name <;> simp [isGiven, value?, Settings.value?]

theorem set_inv (set : line.set name value = .ok next) :
    name.Takes value ∧
      ∀ other, next.value? other = if other = name then some value else line.value? other := by
  cases name with
  | logLevel =>
    obtain ⟨level, found, same⟩ := bind_eq_ok_iff.1 set
    obtain rfl := Except.ok.inj same
    obtain rfl := level_eq_ok_iff.1 found
    exact ⟨⟨level, rfl⟩, fun other => by cases other <;> rfl⟩
  | config | listen | key | logFile =>
    obtain ⟨text, found, same⟩ := bind_eq_ok_iff.1 set
    obtain rfl := Except.ok.inj same
    obtain ⟨takes, rfl⟩ := path_eq_ok_iff.1 found
    exact ⟨takes, fun other => by cases other <;> rfl⟩

theorem exists_set (line : CommandLine) (takes : name.Takes value) :
    ∃ next, line.set name value = .ok next := by
  cases name with
  | logLevel =>
    obtain ⟨level, rfl⟩ := takes
    exact ⟨_, bind_eq_ok_iff.2 ⟨level, level_eq_ok_iff.2 rfl, rfl⟩⟩
  | config | listen | key | logFile =>
    exact ⟨_, bind_eq_ok_iff.2 ⟨value, path_eq_ok_iff.2 ⟨takes, rfl⟩, rfl⟩⟩

theorem accept_of_free (free : line.value? name = none) (value : String) :
    line.accept name value = line.set name value := by
  simp [accept, isGiven_eq_false_iff.2 free]

theorem free_of_accept (accepted : line.accept name value = .ok next) :
    line.value? name = none := by
  by_contra given
  simp [accept, mt isGiven_eq_false_iff.1 given] at accepted

theorem eq_of_value? {other : CommandLine} (same : ∀ name, line.value? name = other.value? name) :
    line = other := by
  obtain ⟨configPath, listenPath, keyPath, logLevel, logFile⟩ := line
  obtain ⟨configPathToo, listenPathToo, keyPathToo, logLevelToo, logFileToo⟩ := other
  obtain rfl : configPath = configPathToo := same .config
  obtain rfl : listenPath = listenPathToo := same .listen
  obtain rfl : keyPath = keyPathToo := same .key
  obtain rfl : logFile = logFileToo := same .logFile
  obtain rfl : logLevel = logLevelToo :=
    Option.map_injective (fun _ _ => LogLevel.name_inj) (same .logLevel)
  rfl

structure GivenAll (line : CommandLine) (given : List (OptionName × String)) (final : CommandLine) :
    Prop where
  once : (given.map Prod.fst).Nodup
  free : ∀ name ∈ given.map Prod.fst, line.value? name = none
  takes : ∀ option ∈ given, option.1.Takes option.2
  values : ∀ name, final.value? name = (given.lookup name).or (line.value? name)

-- It makes no difference when an option is taken in that is given only once.
theorem values_set (set : line.set name value = .ok next) (once : name ∉ given.map Prod.fst)
    (other : OptionName) : (given.lookup other).or (next.value? other) =
      (((name, value) :: given).lookup other).or (line.value? other) := by
  rw [(set_inv set).2, List.lookup_cons]
  by_cases same : other = name
  · subst same
    have absent : given.lookup other = none := by
      rw [List.lookup_eq_none_iff]
      intro option there
      simpa using fun found : other = option.1 => once (found ▸ List.mem_map_of_mem there)
    simp [absent]
  · simp [same, beq_eq_false_iff_ne.2 same]

theorem givenAll_cons (set : line.set name value = .ok next) :
    GivenAll line ((name, value) :: given) final ↔
      line.value? name = none ∧ GivenAll next given final := by
  obtain ⟨takes, values⟩ := set_inv set
  constructor
  · intro all
    have once := List.nodup_cons.1 all.once
    refine ⟨all.free name (by simp), once.2, ?_,
      fun option there => all.takes option (List.mem_cons_of_mem _ there),
      fun other => (all.values other).trans (values_set set once.1 other).symm⟩
    intro other there
    have different : other ≠ name := fun same => once.1 (same ▸ there)
    rw [values, if_neg different]
    exact all.free other (List.mem_cons_of_mem _ there)
  · rintro ⟨free, all⟩
    have once : name ∉ given.map Prod.fst := by
      intro there
      have taken := all.free name there
      simp [values] at taken
    refine ⟨List.nodup_cons.2 ⟨once, all.once⟩, ?_, ?_,
      fun other => (all.values other).trans (values_set set once other)⟩
    · intro other there
      rcases List.mem_cons.1 there with rfl | later
      · exact free
      · have different : other ≠ name := fun same => once (same ▸ later)
        have unset := all.free other later
        rwa [values, if_neg different] at unset
    · intro option there
      rcases List.mem_cons.1 there with rfl | later
      · exact takes
      · exact all.takes option later

theorem acceptAll_eq_ok_iff : acceptAll line given = .ok final ↔ GivenAll line given final := by
  induction given generalizing line with
  | nil =>
    constructor
    · intro accepted
      obtain rfl := Except.ok.inj accepted
      exact ⟨by simp, by simp, by simp, by simp⟩
    · intro all
      obtain rfl := eq_of_value? all.values
      rfl
  | cons option rest ih =>
    obtain ⟨name, value⟩ := option
    rw [acceptAll_cons, bind_eq_ok_iff]
    constructor
    · rintro ⟨next, acceptedNow, acceptedLater⟩
      have free := free_of_accept acceptedNow
      rw [accept_of_free free] at acceptedNow
      exact (givenAll_cons acceptedNow).2 ⟨free, ih.1 acceptedLater⟩
    · intro all
      have free := all.free name (by simp)
      obtain ⟨next, set⟩ := exists_set line (all.takes (name, value) (by simp))
      exact ⟨next, (accept_of_free free value).trans set, ih.2 ((givenAll_cons set).1 all).2⟩

end

/-- A command line that is accepted, by the options that it gives. -/
structure Accepted (arguments : List String) (given : List (OptionName × String)) : Prop where
  reading : Reading arguments given
  once : (given.map Prod.fst).Nodup
  takes : ∀ option ∈ given, option.1.Takes option.2

theorem parse_eq_ok_iff : parse arguments = .ok line ↔
    ∃ given, Accepted arguments given ∧ ∀ name, line.value? name = given.lookup name := by
  have unset (name : OptionName) : empty.value? name = none := by cases name <;> rfl
  rw [parse_eq_ok_iff_reading]
  constructor
  · rintro ⟨given, reading, accepted⟩
    obtain ⟨once, _, takes, values⟩ := acceptAll_eq_ok_iff.1 accepted
    exact ⟨given, ⟨reading, once, takes⟩, by simpa [unset] using values⟩
  · rintro ⟨given, accepted, values⟩
    refine ⟨given, accepted.reading, acceptAll_eq_ok_iff.2 ?_⟩
    exact
      { once := accepted.once
        free := fun name _ => unset name
        takes := accepted.takes
        values := by simpa [unset] using values }

theorem Accepted.exists_values (accepted : Accepted arguments given) :
    ∃ line : CommandLine, ∀ name, line.value? name = given.lookup name := by
  obtain ⟨level, names⟩ :
      ∃ level : Option LogLevel, level.map LogLevel.name = given.lookup .logLevel := by
    cases chosen : given.lookup .logLevel with
    | none => exact ⟨none, rfl⟩
    | some value =>
      obtain ⟨before, after, whole, _⟩ := List.lookup_eq_some_iff.1 chosen
      obtain ⟨level, rfl⟩ := accepted.takes (.logLevel, value) (by simp [whole])
      exact ⟨some level, rfl⟩
  refine ⟨⟨given.lookup .config, ⟨given.lookup .listen, given.lookup .key, level,
    given.lookup .logFile⟩⟩, fun name => ?_⟩
  cases name with
  | logLevel => exact names
  | config | listen | key | logFile => rfl

theorem Accepted.values (accepted : Accepted arguments given) (parsed : parse arguments = .ok line)
    (name : OptionName) : line.value? name = given.lookup name := by
  obtain ⟨other, values⟩ := accepted.exists_values
  have parsedToo := parse_eq_ok_iff.2 ⟨given, accepted, values⟩
  obtain rfl := Except.ok.inj (parsed.symm.trans parsedToo)
  exact values name

end CommandLine

end SoleKey
