import TabularSearch.Log.Level

/-!
# Filters of log events

A filter is a list of directives `target=level`, separated by commas.  A level
alone is for every target, a target alone for every level.  Of the directives
whose target starts the target of an event the longest counts, and of several
for one target the last.  A directive for a span `[name]` never counts for
events outside of spans.
-/

namespace TabularSearch

/-- One directive of a filter. -/
structure LogDirective where
  /-- What the target of an event starts with; empty for every target. -/
  target : List Char
  ceiling : LogCeiling
  /-- Whether the directive is for events in a span. -/
  inSpan : Bool
  deriving DecidableEq

namespace LogDirective

/-- Characters of targets. -/
def isTargetChar (character : Char) : Bool :=
  character.isAlphanum || character ∈ ['_', ':', '-'] || 127 < character.toNat

/-- The name of a span in brackets, if one comes first, and what follows it. -/
def takeSpan (text : List Char) : Option (List Char) × List Char :=
  match text with
  | '[' :: inner =>
    match inner.span (· ≠ ']') with
    | (name, _ :: rest) => (some name, rest)
    | (_, []) => (none, text)
  | _ => (none, text)

/-- Whether a target names a level, and so stands for every target. -/
def isLevelName (target : List Char) : Bool :=
  (LogCeiling.ofName? target).isSome || (Text.unsignedNat? target).any (· ≤ 5)

/-- The ceiling after a target: every level if none is named. -/
def readCeiling? : List Char → Option LogCeiling
  | [] | ['='] => some (some .trace)
  | '=' :: level => LogCeiling.ofText? level
  | _ => none

/-- The directive of a target with spans. -/
def ofParts? (text : List Char) : Option LogDirective :=
  let (first, rest) := takeSpan text
  let (target, rest) := rest.span isTargetChar
  let (second, rest) := takeSpan rest
  let count :=
    first.toList.length + second.toList.length + if target.isEmpty then 0 else 1
  if count = 0 ∨ 2 < count then none
  else
    (readCeiling? rest).map fun ceiling =>
      { target := if isLevelName target then [] else target
        ceiling
        inSpan := (second.or first).any (!·.isEmpty) }

/-- The directive that a text writes. -/
def ofText? (text : List Char) : Option LogDirective :=
  match LogCeiling.ofText? text with
  | some ceiling => some { target := [], ceiling, inSpan := false }
  | none => ofParts? text

/-- Whether the directive can count for events of a target. -/
def covers
    (directive : LogDirective)
    (target : List Char) :
    Bool :=
  !directive.inSpan && directive.target.isPrefixOf target

end LogDirective

/-- Which events are written. -/
structure LogFilter where
  directives : List LogDirective
  deriving DecidableEq

namespace LogFilter

/-- The texts between commas, without the empty ones. -/
def pieces (text : String) : List (List Char) :=
  (text.toList.splitOn ',').filter (!·.isEmpty)

/-- The filter of a text in which every directive is well formed. -/
def ofText? (text : String) : Option LogFilter :=
  ((pieces text).mapM LogDirective.ofText?).map fun directives => { directives }

/-- The filter of the directives of a text that are well formed. -/
def ofSome (text : String) : LogFilter :=
  { directives := (pieces text).filterMap LogDirective.ofText? }

/-- The directive that counts for a target: a longer one over a shorter, a later
one over an earlier of the same length. -/
def directive?
    (filter : LogFilter)
    (target : List Char) :
    Option LogDirective :=
  (filter.directives.filter (·.covers target)).foldl
    (fun best next =>
      match best with
      | none => some next
      | some best =>
        if best.target.length ≤ next.target.length then some next
        else some best)
    none

/-- Whether an event is written.  Without any directive only errors are. -/
def admits
    (filter : LogFilter)
    (target : String)
    (level : LogLevel) :
    Bool :=
  if filter.directives.isEmpty then LogCeiling.admits (some .error) level
  else
    (filter.directive? target.toList).any fun directive =>
      directive.ceiling.admits level

end LogFilter

end TabularSearch
