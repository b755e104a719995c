import TabularSearch.Cli.Arguments

/-!
# Help texts

A help text says what a command is for, how it is called, and what its arguments
and options are, each list with its descriptions in one column.
-/

namespace TabularSearch.Cli

/-- The name under which the program is called. -/
def programName : String := "searchbridge-cli"

/-- The name that calls a topic. -/
def Topic.name : Topic → String
  | .translate => "translate"
  | .run => "run"
  | .status => "status"
  | .config => "config"

/-- What a command is for. -/
def Topic.purpose : Topic → String
  | .translate => "Print the backend request compiled from a query file"
  | .run => "Run a query file and print the rows"
  | .status => "Check that the backend is reachable"
  | .config => "Generate default config file"

/-- What the topic of help is for. -/
def helpPurpose : String :=
  "Print this message or the help of the given subcommand(s)"

/-- A line of a list: a name and its description. -/
abbrev Entry := String × String

/-- A list under a title, the descriptions in one column. -/
def listing
    (title : String)
    (entries : List Entry) :
    List String :=
  let width := (entries.map fun entry => entry.1.length).foldl max 0
  (title ++ ":") ::
    entries.map fun entry =>
      "  " ++ entry.1 ++
        String.ofList (List.replicate (width - entry.1.length) ' ') ++ "  " ++
        entry.2

/-- The entry for the configuration file. -/
def configEntry : Entry :=
  ("-c, --config <CONFIG>", "Config file (default: standard locations)")

/-- The entry for the address of the backend. -/
def backendEntry : Entry :=
  ("    --backend-url <BACKEND_URL>", "Backend URL, overriding the config")

/-- The entry for the form of the rows. -/
def formatEntry : Entry :=
  ("-f, --format <FORMAT>",
    "Output format (table, json, ndjson, csv) [default: table]")

/-- The entry for help. -/
def helpEntry : Entry := ("-h, --help", "Print help")

/-- The entry for the version. -/
def versionEntry : Entry := ("-V, --version", "Print version")

/-- The options that only one command has. -/
def Topic.ownEntries : Topic → List Entry
  | .translate | .status => []
  | .run => [("    --ignore-filters", "Skip session filters (logged only)")]
  | .config => [("-o, --output <OUTPUT>", "Output path (default: stdout)")]

/-- The options of a command. -/
def Topic.optionEntries (topic : Topic) : List Entry :=
  configEntry :: topic.ownEntries ++ [backendEntry, formatEntry, helpEntry]

/-- The entry for the file with a query. -/
def pathEntry : Entry := ("<PATH>", "Path to a query JSON file")

/-- How a command is called, and its lists. -/
def Topic.helpLines (topic : Topic) : List String :=
  let usage := "Usage: " ++ programName ++ " " ++ topic.name ++ " [OPTIONS]"
  [topic.purpose, ""] ++
    (if topic.takesPath then
      [usage ++ " <PATH>", ""] ++ listing "Arguments" [pathEntry]
    else [usage]) ++
    "" :: listing "Options" topic.optionEntries

/-- The lines of a help text. -/
def HelpTopic.lines : HelpTopic → List String
  | .program =>
    ["Compile and run logical queries against a search backend", "",
      "Usage: " ++ programName ++ " [OPTIONS] <COMMAND>", ""] ++
    listing "Commands"
      (([Topic.translate, .run, .status, .config].map fun topic =>
          (topic.name, topic.purpose)) ++ [("help", helpPurpose)]) ++
    "" ::
      listing "Options"
        [configEntry, backendEntry, formatEntry, helpEntry, versionEntry]
  | .command topic => topic.helpLines
  | .help =>
    [helpPurpose, "", "Usage: " ++ programName ++ " help [COMMAND]...", ""] ++
    listing "Arguments" [("[COMMAND]...", "Print help for the subcommand(s)")]

/-- Lines as text. -/
def unlines (lines : List String) : String :=
  String.join (lines.map (· ++ "\n"))

/-- The lines of help on a topic as one text. -/
def HelpTopic.text (topic : HelpTopic) : String :=
  unlines topic.lines

end TabularSearch.Cli
