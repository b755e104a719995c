import TabularSearch.Config.Basic
import TabularSearch.Toml.Reader

/-!
# Configuration from TOML

Sections and settings that are missing have their defaults, and unknown ones are
passed over.  A section is a table or an array of its settings in declared
order; a date stands for a table in which nothing is known.
-/

namespace TabularSearch

/-- The settings of a section, by name. -/
def settingsOf?
    (names : List String)
    (required : Nat) :
    Toml.Value → Option (List (String × Toml.Value))
  | .table entries => some entries
  | .array elements =>
    if required ≤ elements.length then some (names.zip elements) else none
  | .datetime _ => some []
  | _ => none

/-- A setting of a section, or its default where it is missing. -/
def setting?
    {Item : Type}
    (settings : List (String × Toml.Value))
    (name : String)
    (default : Item)
    (read : Toml.Value → Option Item) :
    Option Item :=
  match itemAt? name settings with
  | some value => read value
  | none => some default

/-- A setting that is a text. -/
def textSetting? : Toml.Value → Option String
  | .string content => some content
  | _ => none

/-- A whole number from zero up to a bound. -/
def boundedSetting?
    (bound : Nat) :
    Toml.Value → Option Nat
  | .integer number =>
    if 0 ≤ number ∧ number < bound then some number.toNat else none
  | _ => none

/-- A setting that is a whole number of 64 bits. -/
def wordSetting? (value : Toml.Value) : Option UInt64 :=
  (boundedSetting? 0x10000000000000000 value).map UInt64.ofNat

/-- A setting that is a port. -/
def portSetting? (value : Toml.Value) : Option UInt16 :=
  (boundedSetting? 0x10000 value).map UInt16.ofNat

/-- A setting that is a list of texts. -/
def textsSetting? : Toml.Value → Option (List String)
  | .array elements => elements.mapM textSetting?
  | _ => none

/-- The style of a word in lower case. -/
def PathStyle.ofLower? : String → Option PathStyle
  | "typed" => some .typed
  | "index" => some .index
  | _ => none

/-- A style as a word, or as the only key of a table with nothing under it. -/
def styleSetting? : Toml.Value → Option PathStyle
  | .string word => PathStyle.ofLower? word
  | .table [(word, .table [])] | .table [(word, .array [])] =>
    PathStyle.ofLower? word
  | _ => none

/-- The part about the backend, with defaults for what is not set. -/
def BackendConfig.ofToml? (value : Toml.Value) : Option BackendConfig := do
  let settings ←
    settingsOf?
      ["url", "path_style", "request_timeout_ms", "username",
        "password"] 5 value
  let default := BackendConfig.default
  return {
    url := ← setting? settings "url" default.url textSetting?
    pathStyle :=
      ← setting? settings "path_style" default.pathStyle styleSetting?
    timeoutMillis :=
      ← setting? settings "request_timeout_ms" default.timeoutMillis
        wordSetting?
    username :=
      ← setting? settings "username" none fun value =>
        (textSetting? value).map some
    password :=
      ← setting? settings "password" none fun value =>
        (textSetting? value).map some }

/-- The part about the server, with defaults for what is not set. -/
def ServerConfig.ofToml? (value : Toml.Value) : Option ServerConfig := do
  let settings ←
    settingsOf? ["host", "port", "cors_origins", "request_timeout_secs"] 0 value
  let default := ServerConfig.default
  return {
    host := ← setting? settings "host" default.host textSetting?
    port := ← setting? settings "port" default.port portSetting?
    origins := ← setting? settings "cors_origins" default.origins textsSetting?
    timeoutSeconds :=
      ← setting? settings "request_timeout_secs" default.timeoutSeconds
        wordSetting? }

/-- The part about logging, with defaults for what is not set. -/
def LogConfig.ofToml? (value : Toml.Value) : Option LogConfig := do
  let settings ← settingsOf? ["level", "format"] 0 value
  return {
    level := ← setting? settings "level" LogConfig.default.level textSetting?
    format :=
      ← setting? settings "format" LogConfig.default.format textSetting? }

/-- The configuration that a TOML text writes. -/
def Config.ofText? (text : String) : Option Config := do
  let sections ← Toml.read? text
  return {
    backend := ← setting? sections "backend" .default BackendConfig.ofToml?
    server := ← setting? sections "api" .default ServerConfig.ofToml?
    log := ← setting? sections "logging" .default LogConfig.ofToml? }

end TabularSearch
