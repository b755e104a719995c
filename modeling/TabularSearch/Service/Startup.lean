import TabularSearch.Config.Environment
import TabularSearch.Log.Filter
import TabularSearch.Service.Answer
import TabularSearch.Text.Quoted

/-!
# The start of a server

A server reads its configuration, says where its backend is, asks whether the
backend is there, and warns of origins that can never match.  What it says goes
through the filter of its log.  Nothing is listened at here: a start that is not
refused ends where the server would listen.
-/

namespace TabularSearch

/-- Something to be logged. -/
structure LogEvent where
  level : LogLevel
  target : String
  message : String
  deriving DecidableEq

/-- What comes of a start. -/
structure Startup where
  config : Config
  events : List LogEvent
  /-- The service to listen with; none if its backend has no address. -/
  service : Option Service

/-- An event of the server itself. -/
def serverEvent
    (level : LogLevel)
    (message : String) :
    LogEvent :=
  { level, target := "searchbridge", message }

/-- The name of a style in messages. -/
def PathStyle.title : PathStyle → String
  | .typed => "Typed"
  | .index => "Index"

/-- What is said of a configuration. -/
def Config.announcement (config : Config) : List LogEvent :=
  [serverEvent .info ("Starting searchbridge v" ++ version),
    serverEvent .info
      ("Search backend: " ++ config.backend.url ++ " (path style " ++
        config.backend.pathStyle.title ++ ")")]

/-- What is said of a backend that was asked whether it is there. -/
def Backend.greeting (backend : Backend) : LogEvent :=
  match backend.ping with
  | .ok () => serverEvent .info "Search backend reachable"
  | .error error =>
    serverEvent .warn ("Search backend not reachable yet: " ++ error.message)

/-- What is said of origins that cannot be sent. -/
def originWarnings (origins : List String) : List LogEvent :=
  (origins.filter fun origin => !isHeaderText origin).map fun origin =>
    { level := .warn
      target := "searchbridge::api"
      message := "Ignoring invalid CORS origin " ++ Text.quoted origin }

/-- The start of a server with a configuration. -/
def Startup.ofConfig (config : Config) : Startup :=
  match Backend.atText config.backend.url config.backend.pathStyle with
  | .error _ => { config, events := config.announcement, service := none }
  | .ok backend =>
    { config
      events :=
        config.announcement ++ backend.greeting ::
          originWarnings config.server.origins
      service :=
        some
          { backend
            style := config.backend.pathStyle
            origins := config.server.origins } }

/-- The filter of the log: the directives given if they are well formed, else
those of the level configured. -/
def LogFilter.choose
    (directives : Option String)
    (config : LogConfig) :
    LogFilter :=
  match directives.bind LogFilter.ofText? with
  | some filter => filter
  | none => .ofSome ("searchbridge=" ++ config.level)

/-- The start of a server with the configuration of a file, or
of the usual places. -/
def startServer
    (surroundings : Surroundings)
    (path : Option String) :
    Except ConfigError Startup :=
  (Config.loadFrom surroundings path).map Startup.ofConfig

/-- The events of a start that are written. -/
def Startup.written
    (surroundings : Surroundings)
    (startup : Startup) :
    List LogEvent :=
  let filter :=
    LogFilter.choose (surroundings.lookup? "RUST_LOG") startup.config.log
  startup.events.filter fun event => filter.admits event.target event.level

end TabularSearch
