import TabularSearch.Config.Decode

/-!
# Configuration from files and variables

Variables of the environment go over the settings of a file.  A number that
cannot be read and a style that is not known are passed over.  Without a file
given, the usual places are tried in order, and the first file that can be
read and understood counts.
-/

namespace TabularSearch

/-- What a program may ask of its surroundings: variables, and
the texts of files. -/
structure Surroundings where
  lookup? : String → Option String
  /-- The text of a file; none if it is missing or not Unicode. -/
  file? : String → Option String

/-- Why there is no configuration. -/
inductive ConfigError where
  | unreadable (path : String)
  | malformed (path : String)
  deriving DecidableEq

/-- What is said of a configuration that cannot be taken. -/
def ConfigError.message : ConfigError → String
  | .unreadable path => "Failed to read config file " ++ path
  | .malformed path => "Failed to parse config file " ++ path

/-- The variables that a configuration may come from. -/
def Surroundings.variableNames : List String :=
  ["HOME", "XDG_CONFIG_HOME", "SEARCHBRIDGE_BACKEND_URL",
    "SEARCHBRIDGE_BACKEND_PATH_STYLE", "SEARCHBRIDGE_BACKEND_TIMEOUT_MS",
    "SEARCHBRIDGE_BACKEND_USERNAME", "SEARCHBRIDGE_BACKEND_PASSWORD",
    "SEARCHBRIDGE_API_HOST", "SEARCHBRIDGE_API_PORT", "SEARCHBRIDGE_LOG_LEVEL",
    "SEARCHBRIDGE_LOG_FORMAT"]

/-- A whole number below a bound, in digits after an optional plus sign. -/
def numberBelow?
    (bound : Nat)
    (text : String) :
    Option Nat :=
  (Text.unsignedNat? text.toList).filter (· < bound)

/-- The backend with what the environment sets in its place. -/
def BackendConfig.override
    (lookup? : String → Option String)
    (config : BackendConfig) :
    BackendConfig :=
  { url := (lookup? "SEARCHBRIDGE_BACKEND_URL").getD config.url
    pathStyle :=
      ((lookup? "SEARCHBRIDGE_BACKEND_PATH_STYLE").bind PathStyle.ofWord?).getD
        config.pathStyle
    timeoutMillis :=
      (((lookup? "SEARCHBRIDGE_BACKEND_TIMEOUT_MS").bind
        (numberBelow? 0x10000000000000000)).map
        UInt64.ofNat).getD config.timeoutMillis
    username := (lookup? "SEARCHBRIDGE_BACKEND_USERNAME").or config.username
    password := (lookup? "SEARCHBRIDGE_BACKEND_PASSWORD").or config.password }

/-- The server with what the environment sets in its place. -/
def ServerConfig.override
    (lookup? : String → Option String)
    (config : ServerConfig) :
    ServerConfig :=
  { config with
    host := (lookup? "SEARCHBRIDGE_API_HOST").getD config.host
    port :=
      (((lookup? "SEARCHBRIDGE_API_PORT").bind (numberBelow? 0x10000)).map
        UInt16.ofNat).getD config.port }

/-- The logging with what the environment sets in its place. -/
def LogConfig.override
    (lookup? : String → Option String)
    (config : LogConfig) :
    LogConfig :=
  { level := (lookup? "SEARCHBRIDGE_LOG_LEVEL").getD config.level
    format := (lookup? "SEARCHBRIDGE_LOG_FORMAT").getD config.format }

namespace Config

/-- The configuration with the variables over it. -/
def override
    (lookup? : String → Option String)
    (config : Config) :
    Config :=
  { backend := config.backend.override lookup?
    server := config.server.override lookup?
    log := config.log.override lookup? }

/-- The configuration of a file alone. -/
def ofFile
    (file? : String → Option String)
    (path : String) :
    Except ConfigError Config :=
  match file? path with
  | none => .error (.unreadable path)
  | some text =>
    match ofText? text with
    | none => .error (.malformed path)
    | some config => .ok config

/-- The configuration of a file with the variables over it. -/
def load
    (surroundings : Surroundings)
    (path : String) :
    Except ConfigError Config :=
  (ofFile surroundings.file? path).map (override surroundings.lookup?)

/-- The directory of the user's configuration; a relative one
counts as missing. -/
def userDirectory? (lookup? : String → Option String) : Option String :=
  match (lookup? "XDG_CONFIG_HOME").filter (·.startsWith "/") with
  | some directory => some directory
  | none => ((lookup? "HOME").filter (· ≠ "")).map (· ++ "/.config")

/-- The places where a configuration is looked for, the first first. -/
def usualPlaces (lookup? : String → Option String) : List String :=
  ((userDirectory? lookup?).map (· ++ "/searchbridge/config.toml")).toList ++
    ["/etc/searchbridge/config.toml", "./searchbridge.toml"]

/-- The configuration of the first of several files that has one. -/
def firstOf?
    (file? : String → Option String) :
    List String → Option Config
  | [] => none
  | path :: rest =>
    match ofFile file? path with
    | .ok config => some config
    | .error _ => firstOf? file? rest

/-- The configuration found in the usual places, or the default one, with
the variables over it. -/
def loadUsual (surroundings : Surroundings) : Config :=
  override surroundings.lookup? <|
    (firstOf? surroundings.file? (usualPlaces surroundings.lookup?)).getD
      default

/-- The configuration of the file given, or of the usual places. -/
def loadFrom
    (surroundings : Surroundings)
    (path : Option String) :
    Except ConfigError Config :=
  match path with
  | some path => load surroundings path
  | none => .ok (loadUsual surroundings)

end Config

end TabularSearch
