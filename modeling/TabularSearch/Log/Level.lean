import TabularSearch.Text.Ascii

/-!
# Levels of log events

Events have a level, from errors to traces, and a ceiling says how far down the
events are still written; without any level nothing is.
-/

namespace TabularSearch

/-- How much an event matters, the most first. -/
inductive LogLevel where
  | error
  | warn
  | info
  | debug
  | trace
  deriving DecidableEq

/-- The last level that is still written; none where nothing is. -/
abbrev LogCeiling := Option LogLevel

namespace LogLevel

/-- The distance from saying nothing. -/
def rank : LogLevel → Nat
  | error => 1
  | warn => 2
  | info => 3
  | debug => 4
  | trace => 5

/-- The name in a log line. -/
def title : LogLevel → String
  | error => "ERROR"
  | warn => "WARN"
  | info => "INFO"
  | debug => "DEBUG"
  | trace => "TRACE"

end LogLevel

namespace LogCeiling

/-- The place of a ceiling; with no level nothing passes. -/
def rank : LogCeiling → Nat
  | none => 0
  | some level => level.rank

/-- Whether events of a level are written. -/
def admits
    (ceiling : LogCeiling)
    (level : LogLevel) :
    Bool :=
  level.rank ≤ rank ceiling

/-- The ceiling of a rank. -/
def ofRank? : Nat → Option LogCeiling
  | 0 => some none
  | 1 => some (some .error)
  | 2 => some (some .warn)
  | 3 => some (some .info)
  | 4 => some (some .debug)
  | 5 => some (some .trace)
  | _ => none

/-- The ceiling that a word in any case names. -/
def ofName? (word : List Char) : Option LogCeiling :=
  match Text.lowerAscii (String.ofList word) with
  | "off" => some none
  | "error" => some (some .error)
  | "warn" => some (some .warn)
  | "info" => some (some .info)
  | "debug" => some (some .debug)
  | "trace" => some (some .trace)
  | _ => none

/-- The ceiling that a word or a single digit names. -/
def ofText? (text : List Char) : Option LogCeiling :=
  match text with
  | [digit] => (Text.digitValue? digit).bind ofRank?
  | _ => ofName? text

end LogCeiling

end TabularSearch
