/-!
# The Gregorian calendar

Days are numbered from 1970-01-01 in the calendar that extends the
Gregorian rule to all years.  The count goes by years that begin in March,
so that the leap day is the last day of its year, in eras of 400 years.
`Date.ofDay` and `Date.toDay` are meant as inverses of each other on the
days and on the valid dates.
-/

namespace TabularSearch.Time

/-- A date of the calendar. -/
structure Date where
  year : Int
  month : Int
  day : Int
  deriving DecidableEq, Repr

/-- The rule for leap years. -/
def isLeap (year : Int) : Bool :=
  year % 4 == 0 && (year % 100 != 0 || year % 400 == 0)

/-- The number of days in a month. -/
def monthLength
    (year month : Int) :
    Int :=
  if month = 2 then (if isLeap year then 29 else 28)
  else if month = 4 ∨ month = 6 ∨ month = 9 ∨ month = 11 then 30
  else 31

/-- Dates that exist. -/
def Date.Valid (date : Date) : Prop :=
  1 ≤ date.month ∧ date.month ≤ 12 ∧ 1 ≤ date.day ∧
    date.day ≤ monthLength date.year date.month

/-- Whether a date is one of the calendar can be decided. -/
instance (date : Date) : Decidable date.Valid := by
  unfold Date.Valid
  infer_instance

/-- The days in an era of 400 years. -/
def eraDays : Int := 146097

/-- The days from 0000-03-01 to 1970-01-01. -/
def epochOffset : Int := 719468

/-- The number of a date. -/
def Date.toDay (date : Date) : Int :=
  let marchYear := if date.month ≤ 2 then date.year - 1 else date.year
  let era := marchYear / 400
  let yearOfEra := marchYear % 400
  let marchMonth := (date.month + 9) % 12
  let dayOfYear := (153 * marchMonth + 2) / 5 + date.day - 1
  let dayOfEra := yearOfEra * 365 + yearOfEra / 4 - yearOfEra / 100 + dayOfYear
  era * eraDays + dayOfEra - epochOffset

/-- The date with a number. -/
def Date.ofDay (number : Int) : Date :=
  let shifted := number + epochOffset
  let era := shifted / eraDays
  let dayOfEra := shifted % eraDays
  let yearOfEra :=
    (dayOfEra - dayOfEra / 1460 + dayOfEra / 36524 - dayOfEra / 146096) / 365
  let dayOfYear :=
    dayOfEra - (365 * yearOfEra + yearOfEra / 4 - yearOfEra / 100)
  let marchMonth := (5 * dayOfYear + 2) / 153
  let month := if marchMonth < 10 then marchMonth + 3 else marchMonth - 9
  let marchYear := yearOfEra + era * 400
  { year := if month ≤ 2 then marchYear + 1 else marchYear
    month
    day := dayOfYear - (153 * marchMonth + 2) / 5 + 1 }

/-- The years that dates may have. -/
def leastYear : Int := -262143

/-- The years that dates may have. -/
def greatestYear : Int := 262142

end TabularSearch.Time
