import TabularSearch.Time.Calendar

/-!
# Instants

A point in time is a second, counted from 1970-01-01T00:00:00Z without
leap seconds, and the nanoseconds since that second began.  A leap
second has no number of its own: it is the second `:59` with a
nanosecond count from `10 ^ 9` on.
-/

namespace TabularSearch.Time

/-- The seconds of a day. -/
def secondsPerDay : Int := 86400

/-- The nanoseconds of a second. -/
def nanosPerSecond : Nat := 1000000000

/-- The first second that has a date. -/
def leastSecond : Int := -8334601228800

/-- The last second that has a date. -/
def greatestSecond : Int := 8210266876799

/-- Seconds within the years that dates may have. -/
def InRange (second : Int) : Prop :=
  leastSecond ≤ second ∧ second ≤ greatestSecond

/-- Whether a second is in the range of dates can be decided. -/
instance (second : Int) : Decidable (InRange second) := by
  unfold InRange
  infer_instance

/-- A point in time in the range of dates. -/
structure Instant where
  second : Int
  nanos : Nat
  inRange : InRange second
  nanos_lt : nanos < 2 * nanosPerSecond
  leap_at_end : nanosPerSecond ≤ nanos → second % 60 = 59
  deriving DecidableEq

/-- The parts of a date and a time of day. -/
structure Moment where
  date : Date
  hour : Int
  minute : Int
  second : Int
  deriving DecidableEq, Repr

/-- The calendar reading of a second. -/
def Moment.ofSecond (second : Int) : Moment :=
  let time := second % secondsPerDay
  { date := Date.ofDay (second / secondsPerDay)
    hour := time / 3600
    minute := time / 60 % 60
    second := time % 60 }

namespace Instant

/-- The instant of a count of milliseconds from 1970; none
outside the range of dates. -/
def ofMillis? (millis : Int) : Option Instant :=
  if inRange : InRange (millis / 1000) then
    some
      { second := millis / 1000
        nanos := (millis % 1000).toNat * 1000000
        inRange
        nanos_lt := by simp only [nanosPerSecond]; omega
        leap_at_end := by simp only [nanosPerSecond]; omega }
  else none

/-- The count of whole milliseconds from 1970, a leap second counted on. -/
def toMillis (instant : Instant) : Int :=
  instant.second * 1000 + (instant.nanos / 1000000 : Nat)

/-- The calendar reading of an instant; a leap second reads `:60`. -/
def moment (instant : Instant) : Moment :=
  let moment := Moment.ofSecond instant.second
  if nanosPerSecond ≤ instant.nanos then
    { moment with second := moment.second + 1 }
  else moment

/-- The nanoseconds within the second that the reading shows. -/
def fraction (instant : Instant) : Nat :=
  instant.nanos % nanosPerSecond

end Instant

end TabularSearch.Time
