/-!
# Command lines

A command line names one command.  The common options stand before the
command or after it, and then the one after it counts.  A value stands in
the same argument, with or without an equals sign, or in the next one,
which may not start with a hyphen unless it is nothing but one.  After
`--` there are only paths.
-/

namespace TabularSearch.Cli

/-- The commands by name. -/
inductive Topic where
  | translate
  | run
  | status
  | config
  deriving DecidableEq

/-- The topic with a name. -/
def Topic.ofName? : String → Option Topic
  | "translate" => some .translate
  | "run" => some .run
  | "status" => some .status
  | "config" => some .config
  | _ => none

/-- Whether the command is about a query file. -/
def Topic.takesPath : Topic → Bool
  | .translate | .run => true
  | .status | .config => false

/-- The options that have a value. -/
inductive Setting where
  | config
  | backendUrl
  | format
  | output
  deriving DecidableEq

/-- Whether a value may be empty; a path may not. -/
def Setting.allowsEmpty : Setting → Bool
  | .backendUrl | .format => true
  | .config | .output => false

/-- The options. -/
inductive Switch where
  | setting (setting : Setting)
  | ignoreFilters
  | help
  | version
  deriving DecidableEq

/-- The option of a long name, after a command or before any. -/
def Switch.ofLong? (topic : Option Topic) (name : String) : Option Switch :=
  match name with
  | "config" => some (.setting .config)
  | "backend-url" => some (.setting .backendUrl)
  | "format" => some (.setting .format)
  | "help" => some .help
  | "version" => if topic = none then some .version else none
  | "output" => if topic = some .config then some (.setting .output) else none
  | "ignore-filters" => if topic = some .run then some .ignoreFilters else none
  | _ => none

/-- The option of one letter, after a command or before any. -/
def Switch.ofShort? (topic : Option Topic) (letter : Char) : Option Switch :=
  match letter with
  | 'c' => some (.setting .config)
  | 'f' => some (.setting .format)
  | 'h' => some .help
  | 'V' => if topic = none then some .version else none
  | 'o' => if topic = some .config then some (.setting .output) else none
  | _ => none

/-- What was given before a command, or after it. -/
structure Given where
  settings : List (Setting × String)
  ignoreFilters : Bool
  path : Option String

namespace Given

/-- No settings, no flag and no path. -/
def nothing : Given :=
  { settings := [], ignoreFilters := false, path := none }

/-- The text given for a setting. -/
def setting? (given : Given) (setting : Setting) : Option String :=
  given.settings.lookup setting

/-- One more option with its value; an option comes once. -/
def put?
    (given : Given)
    (setting : Setting)
    (value : String) :
    Option Given :=
  if (given.setting? setting).isSome then none
  else if value = "" ∧ !setting.allowsEmpty then none
  else some { given with settings := (setting, value) :: given.settings }

/-- One more path. -/
def putPath?
    (given : Given)
    (path : String) :
    Option Given :=
  if given.path.isSome ∨ path = "" then none
  else some { given with path := some path }

end Given

/-- One argument, by its first characters. -/
inductive Argument where
  /-- Two hyphens alone. -/
  | separator
  | long (name : String) (value : Option String)
  | short (letter : Char) (value : Option String)
  | word (text : String)
  deriving DecidableEq

namespace Argument

/-- The value after a letter, without an equals sign; none if
nothing follows. -/
def attached? : List Char → Option String
  | [] => none
  | '=' :: value | value => some (String.ofList value)

/-- An argument by the dashes in front of it. -/
def ofText (text : String) : Argument :=
  match text.toList with
  | ['-', '-'] => .separator
  | '-' :: '-' :: rest =>
    match rest.span (· ≠ '=') with
    | (name, []) => .long (String.ofList name) none
    | (name, _ :: value) =>
      .long (String.ofList name) (some (String.ofList value))
  | '-' :: letter :: rest => .short letter (attached? rest)
  | _ => .word text

end Argument

/-- What every command heeds. -/
structure Common where
  config : Option String
  backendUrl : Option String
  format : String
  deriving DecidableEq

/-- A command with what it needs. -/
inductive Command where
  | translate (path : String)
  | run (path : String) (ignoreFilters : Bool)
  | status
  | config (output : Option String)
  deriving DecidableEq

/-- What help is about. -/
inductive HelpTopic where
  | program
  | command (topic : Topic)
  | help
  deriving DecidableEq

/-- What a command line asks for. -/
inductive Invocation where
  | help (topic : HelpTopic)
  | version
  | command (common : Common) (command : Command)
  deriving DecidableEq

/-- A command line read so far. -/
structure Progress where
  /-- The command, once it is named. -/
  topic : Option Topic
  /-- What was given before the command. -/
  outer : Given
  /-- What was given after the command, or before any. -/
  given : Given
  /-- The option whose value comes next. -/
  awaited : Option Setting
  /-- Whether nothing that follows is an option. -/
  onlyPaths : Bool

namespace Progress

/-- Before the first argument. -/
def start : Progress :=
  { topic := none, outer := .nothing, given := .nothing, awaited := none,
    onlyPaths := false }

/-- The command with what was given after it. -/
def command?
    (progress : Progress) :
    Topic → Option Command
  | .translate => progress.given.path.map .translate
  | .run =>
    progress.given.path.map fun path => .run path progress.given.ignoreFilters
  | .status => some .status
  | .config => some (.config (progress.given.setting? .output))

/-- A common option; the one after the command counts. -/
def common?
    (progress : Progress)
    (setting : Setting) :
    Option String :=
  (progress.given.setting? setting).or (progress.outer.setting? setting)

/-- What a complete command line asks for. -/
def finish? (progress : Progress) : Option Invocation :=
  match progress.awaited, progress.topic with
  | none, some topic =>
    (progress.command? topic).map <| .command
      { config := progress.common? .config
        backendUrl := progress.common? .backendUrl
        format := (progress.common? .format).getD "table" }
  | _, _ => none

/-- One more option with its value. -/
def put?
    (progress : Progress)
    (setting : Setting)
    (value : String) :
    Option Progress :=
  (progress.given.put? setting value).map fun given =>
    { progress with given, awaited := none }

/-- One more path, where the command takes one. -/
def putPath?
    (progress : Progress)
    (path : String) :
    Option Progress :=
  if progress.topic.any Topic.takesPath then
    (progress.given.putPath? path).map fun given => { progress with given }
  else none

/-- The command is named. -/
def enter
    (progress : Progress)
    (topic : Topic) :
    Progress :=
  { progress with
      topic := some topic, outer := progress.given, given := .nothing }

/-- What help after the command line so far is about. -/
def helpTopic (progress : Progress) : HelpTopic :=
  match progress.topic with
  | none => .program
  | some topic => .command topic

/-- What an argument does: it ends the reading, or is noted. -/
abbrev Step := Option (Invocation ⊕ Progress)

/-- The reading goes on, unless it is refused. -/
def goOn : Option Progress → Step :=
  Option.map .inr

/-- An option, with the value in its argument if there is one. -/
def switch?
    (progress : Progress)
    (value : Option String) :
    Switch → Step
  | .help => some (.inl (.help progress.helpTopic))
  | .version => some (.inl .version)
  | .ignoreFilters =>
    if progress.given.ignoreFilters then none
    else
      goOn
        (some { progress with
          given := { progress.given with ignoreFilters := true } })
  | .setting setting =>
    match value with
    | some value => goOn (progress.put? setting value)
    | none => goOn (some { progress with awaited := some setting })

/-- An option of a long name; only options that have values take one. -/
def long?
    (progress : Progress)
    (name : String)
    (value : Option String) :
    Step :=
  match Switch.ofLong? progress.topic name with
  | none => none
  | some (.setting setting) => progress.switch? value (.setting setting)
  | some flag => if value.isSome then none else progress.switch? none flag

/-- A word that is neither an option nor the value of one. -/
def word?
    (progress : Progress)
    (word : String) :
    Step :=
  match progress.topic with
  | some _ => goOn (progress.putPath? word)
  | none => goOn ((Topic.ofName? word).map progress.enter)

/-- What the next argument does. -/
def step?
    (progress : Progress)
    (argument : String) :
    Step :=
  if progress.onlyPaths then goOn (progress.putPath? argument)
  else
    match Argument.ofText argument, progress.awaited with
    | .word value, some setting => goOn (progress.put? setting value)
    | _, some _ => none
    | .separator, none => goOn (some { progress with onlyPaths := true })
    | .long name value, none => progress.long? name value
    | .short letter value, none =>
      (Switch.ofShort? progress.topic letter).bind (progress.switch? value)
    | .word word, none => progress.word? word

/-- Whether an argument is the command `help`. -/
def isHelp
    (progress : Progress)
    (argument : String) :
    Bool :=
  argument = "help" && progress.topic.isNone && progress.awaited.isNone &&
    !progress.onlyPaths

/-- What `help` with the words after it asks for. -/
def help? : List String → Option Invocation
  | [] => some (.help .program)
  | ["help"] => some (.help .help)
  | [name] => (Topic.ofName? name).map fun topic => .help (.command topic)
  | _ => none

/-- The rest of a command line; none if it is refused. -/
def read (progress : Progress) : List String → Option Invocation
  | [] => progress.finish?
  | argument :: rest =>
    if progress.isHelp argument then help? rest
    else
      match progress.step? argument with
      | none => none
      | some (.inl invocation) => some invocation
      | some (.inr progress) => progress.read rest

end Progress

/-- What a command line asks for; none if it is refused. -/
def readArguments (arguments : List String) : Option Invocation :=
  Progress.start.read arguments

end TabularSearch.Cli
