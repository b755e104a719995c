import TabularSearch.Request.Basic

/-!
# Configuration

Where the backend is, how the server listens, and what is logged.
`Config.default` holds when nothing is configured, and `Config.sampleText` is a
commented file that says the same.
-/

namespace TabularSearch

/-- How the backend is reached. -/
structure BackendConfig where
  url : String
  pathStyle : PathStyle
  /-- The most milliseconds that a request may take. -/
  timeoutMillis : UInt64
  username : Option String
  password : Option String
  deriving DecidableEq

/-- How the server listens. -/
structure ServerConfig where
  host : String
  port : UInt16
  /-- The origins that browsers may call from; none means all. -/
  origins : List String
  /-- The most seconds that an answer may take. -/
  timeoutSeconds : UInt64
  deriving DecidableEq

/-- What is logged, and in which form. -/
structure LogConfig where
  level : String
  format : String
  deriving DecidableEq

/-- The whole configuration. -/
structure Config where
  backend : BackendConfig
  server : ServerConfig
  log : LogConfig
  deriving DecidableEq

/-- A backend on the same machine, without a user. -/
def BackendConfig.default : BackendConfig :=
  { url := "http://localhost:9200"
    pathStyle := .typed
    timeoutMillis := 30000
    username := none
    password := none }

/-- A server for all addresses of the machine. -/
def ServerConfig.default : ServerConfig :=
  { host := "0.0.0.0", port := 8090, origins := [], timeoutSeconds := 60 }

/-- The address that the server listens at. -/
def ServerConfig.address (config : ServerConfig) : String :=
  config.host ++ ":" ++ String.ofList (Text.decimalDigits config.port.toNat)

/-- Lines for people, from the level of information on. -/
def LogConfig.default : LogConfig :=
  { level := "info", format := "pretty" }

/-- Whether log lines are JSON. -/
def LogConfig.isJson (config : LogConfig) : Bool :=
  Text.equalIgnoringCase config.format "json"

/-- The configuration where nothing is set. -/
def Config.default : Config :=
  { backend := .default, server := .default, log := .default }

/-- The lines of a commented file with the default configuration. -/
def Config.sampleLines : List String :=
  ["# searchbridge configuration",
    "#",
    "# Environment variables override these settings:",
    "# - SEARCHBRIDGE_BACKEND_URL",
    "# - SEARCHBRIDGE_BACKEND_PATH_STYLE",
    "# - SEARCHBRIDGE_BACKEND_TIMEOUT_MS",
    "# - SEARCHBRIDGE_BACKEND_USERNAME",
    "# - SEARCHBRIDGE_BACKEND_PASSWORD",
    "# - SEARCHBRIDGE_API_HOST",
    "# - SEARCHBRIDGE_API_PORT",
    "# - SEARCHBRIDGE_LOG_LEVEL",
    "# - SEARCHBRIDGE_LOG_FORMAT",
    "",
    "[backend]",
    "# Search backend base URL",
    "url = \"http://localhost:9200\"",
    "",
    "# Search path layout: \"typed\" (\x7bdatabase\x7d/\x7btable\x7d/_search)",
    "# or \"index\" (\x7btable\x7d/_search)",
    "path_style = \"typed\"",
    "",
    "# Per-request timeout (ms)",
    "request_timeout_ms = 30000",
    "",
    "# Optional basic auth credentials",
    "# username = \"elastic\"",
    "# password = \"\"",
    "",
    "[api]",
    "# API server host",
    "host = \"0.0.0.0\"",
    "",
    "# API server port",
    "port = 8090",
    "",
    "# Allowed CORS origins (empty allows any)",
    "cors_origins = []",
    "",
    "# Request timeout in seconds",
    "request_timeout_secs = 60",
    "",
    "[logging]",
    "# Log level: trace, debug, info, warn, error",
    "level = \"info\"",
    "",
    "# Log format: pretty (for development) or json (for production)",
    "format = \"pretty\""]

/-- A commented file with the default configuration. -/
def Config.sampleText : String :=
  String.join (Config.sampleLines.map (· ++ "\n"))

end TabularSearch
