import TabularSearch.Backend.Execution
import TabularSearch.Cli.Help
import TabularSearch.Cli.Table
import TabularSearch.Config.Environment
import TabularSearch.Json.Reader
import TabularSearch.Query.Written
import TabularSearch.Service.Answer
import TabularSearch.Text.Quoted

/-!
# Running commands

A command line becomes an action: what is printed and how the program ends,
perhaps after a file was written.  The configuration is read before any command,
even where it does not matter.
-/

namespace TabularSearch.Cli

open TabularSearch.Json

/-- How a program ends. -/
inductive ExitStatus where
  | success
  | failure
  /-- The command line is refused. -/
  | misuse
  deriving DecidableEq

/-- The number that a program ends with. -/
def ExitStatus.code : ExitStatus → Nat
  | .success => 0
  | .failure => 1
  | .misuse => 2

/-- What a program prints, and how it ends. -/
structure Outcome where
  exit : ExitStatus
  output : String
  complaint : String
  deriving DecidableEq

namespace Outcome

/-- A run that ends well with something printed. -/
def printed (output : String) : Outcome :=
  { exit := .success, output, complaint := "" }

/-- A run that fails with a complaint. -/
def failed (complaint : String) : Outcome :=
  { exit := .failure, output := "", complaint := complaint ++ "\n" }

end Outcome

/-- What a command does. -/
inductive Action where
  | finish (outcome : Outcome)
  /-- A file is written, and then it matters whether that went well. -/
  | write (path content : String) (written refused : Outcome)
  deriving DecidableEq

/-- The query of a file. -/
def readQuery
    (file? : String → Option String)
    (path : String) :
    Except String Query :=
  match file? path with
  | none => .error ("Error: Cannot read query file " ++ Text.quoted path)
  | some content =>
    match Query.read (parseDocument content) with
    | .error _ => .error ("Error: Invalid query in " ++ Text.quoted path)
    | .ok query => .ok query

/-- A compiled request as it is shown. -/
def requestText
    (style : PathStyle)
    (request : SearchRequest) :
    String :=
  let target := "POST /" ++ request.path style
  unlines
    [match request.scroll? with
      | some keepAlive => target ++ "?scroll=" ++ keepAlive
      | none => target,
      request.body.indented]

/-- A query compiled and shown. -/
def translate
    (file? : String → Option String)
    (config : Config)
    (path : String) :
    Outcome :=
  match readQuery file? path with
  | .error complaint => .failed complaint
  | .ok query =>
    match SearchRequest.ofChecked query with
    | .error cause => .failed (QueryError.invalid cause).message
    | .ok request => .printed (requestText config.backend.pathStyle request)

/-- The rows of a result in the form named, or as a table. -/
def resultText
    (format : String)
    (result : ResultSet) :
    String :=
  match OutputFormat.ofWord? format with
  | some format => exportRows format result.rows
  | none => unlines (resultLines 0 result)

/-- The backend configured. -/
def backendOf (config : Config) : Except BackendError Backend :=
  Backend.atText config.backend.url config.backend.pathStyle

/-- A query run, and its rows shown. -/
def runQuery
    (file? : String → Option String)
    (config : Config)
    (format path : String) :
    Outcome :=
  match readQuery file? path with
  | .error complaint => .failed complaint
  | .ok query =>
    match backendOf config with
    | .error error => .failed ("Error: " ++ error.message)
    | .ok backend =>
      match (backend.execute query).result with
      | .error error => .failed ("Query failed: " ++ error.message)
      | .ok result => .printed (resultText format result)

/-- Whether the backend is there. -/
def status (config : Config) : Outcome :=
  match backendOf config with
  | .error error => .failed ("Error: " ++ error.message)
  | .ok backend =>
    let heading :=
      ["searchbridge v" ++ version, "", "Backend: " ++ config.backend.url,
        "Path style: " ++ config.backend.pathStyle.word]
    match backend.ping with
    | .ok () => .printed (unlines (heading ++ ["Status: reachable"]))
    | .error error =>
      { exit := .failure
        output :=
          unlines (heading ++ ["Status: unreachable (" ++ error.message ++ ")"])
        complaint := "" }

/-- The sample configuration shown, or written to a file. -/
def sampleConfig : Option String → Action
  | none => .finish (.printed Config.sampleText)
  | some path =>
    .write path Config.sampleText
      (.printed (unlines ["Config written to " ++ Text.quoted path]))
      (.failed ("Error: Cannot write " ++ Text.quoted path))

/-- The configuration with an address of the backend over it. -/
def withBackend
    (config : Config)
    (url : Option String) :
    Config :=
  { config with
      backend := { config.backend with url := url.getD config.backend.url } }

/-- What a command does with a configuration. -/
def Command.action
    (file? : String → Option String)
    (config : Config)
    (format : String) :
    Command → Action
  | .translate path => .finish (Cli.translate file? config path)
  | .run path _ => .finish (runQuery file? config format path)
  | .status => .finish (Cli.status config)
  | .config output => sampleConfig output

/-- What an invocation does. -/
def Invocation.action
    (surroundings : Surroundings) :
    Invocation → Action
  | .help topic => .finish (.printed topic.text)
  | .version =>
    .finish (.printed (unlines [programName ++ " " ++ TabularSearch.version]))
  | .command common chosen =>
    match Config.loadFrom surroundings common.config with
    | .error error => .finish (.failed ("Error: " ++ error.message))
    | .ok config =>
      chosen.action surroundings.file? (withBackend config common.backendUrl)
        common.format

/-- The end of a program whose command line is refused. -/
def misuse : Outcome :=
  { exit := .misuse
    output := ""
    complaint :=
      unlines
        ["error: the command line is not understood", "",
          "For more information, try '--help'."] }

/-- What a command line does. -/
def action
    (surroundings : Surroundings)
    (arguments : List String) :
    Action :=
  match readArguments arguments with
  | none => .finish misuse
  | some invocation => invocation.action surroundings

/-- The query file that a command line names. -/
def Invocation.queryPath? : Invocation → Option String
  | .command _ (.translate path) | .command _ (.run path _) => some path
  | _ => none

/-- The files that a command line may read. -/
def readPaths
    (lookup? : String → Option String)
    (arguments : List String) :
    List String :=
  match readArguments arguments with
  | some invocation@(.command common _) =>
    (match common.config with
      | some path => [path]
      | none => Config.usualPlaces lookup?) ++ invocation.queryPath?.toList
  | _ => []

end TabularSearch.Cli
