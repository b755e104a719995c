import TabularSearch.Aggregation.Basic

/-!
# Windows of documents

The backend answers positions below a ceiling.  A window starts at the offset
and holds as many positions as the limit asks for and the ceiling leaves; only a
limit above the ceiling opens a cursor that would go on.
-/

namespace TabularSearch

/-- Positions `start` to `start + size`, and whether a cursor is opened. -/
structure Window where
  start : UInt64
  size : UInt64
  scrolls : Bool
  deriving DecidableEq

/-- How long a cursor is kept open. -/
def scrollKeepAlive : String := "1m"

namespace Window

/-- The positions that the ceiling leaves after a start. -/
def room (start : UInt64) : UInt64 :=
  if start < answerCeiling then answerCeiling - start else 0

/-- The window of an optional limit and offset; a limit of
zero counts as absent. -/
def ofRange (limit offset : Option UInt64) : Window :=
  let start := offset.getD 0
  match limit.filter (· ≠ 0) with
  | none => { start, size := room start, scrolls := false }
  | some limit =>
    if limit ≤ answerCeiling then
      { start, size := min limit (room start), scrolls := false }
    else { start, size := room start, scrolls := true }

/-- How long the window's cursor is kept open, if it opens one. -/
def scroll? (window : Window) : Option String :=
  if window.scrolls then some scrollKeepAlive else none

end Window

end TabularSearch
