import TabularSearch.Text.Ascii
import TabularSearch.Text.Blank
import TabularSearch.Time.Instant

/-!
# Dates as RFC 3339 text

Dates are written in UTC with a `Z`.  They are read in a relaxed form: white
space may stand before every part, a blank may stand for the `T`, months, days,
hours, minutes and seconds may have one digit, years may have a sign and more
than four digits, the zone may be `UTC`, and its colon may be left out.
Fraction digits after the ninth are dropped.
-/

namespace TabularSearch.Time

open TabularSearch.Text

/-- A year with four digits, or with a sign and at least four
digits outside `0..9999`. -/
def yearText (year : Int) : List Char :=
  if 0 ≤ year ∧ year ≤ 9999 then paddedDigits 4 year.natAbs
  else (if year < 0 then '-' else '+') :: paddedDigits 4 year.natAbs

/-- Two digits. -/
def twoDigits (value : Int) : List Char :=
  paddedDigits 2 value.natAbs

/-- The date and the time of day to the second, in UTC. -/
def Moment.text (moment : Moment) : List Char :=
  yearText moment.date.year ++ '-' :: (twoDigits moment.date.month ++ '-' ::
    (twoDigits moment.date.day ++ 'T' :: (twoDigits moment.hour ++ ':' ::
      (twoDigits moment.minute ++ ':' :: twoDigits moment.second))))

/-- A fraction of a second in as few groups of three digits as are exact. -/
def fractionText (nanos : Nat) : List Char :=
  if nanos = 0 then []
  else if nanos % 1000000 = 0 then '.' :: paddedDigits 3 (nanos / 1000000)
  else if nanos % 1000 = 0 then '.' :: paddedDigits 6 (nanos / 1000)
  else '.' :: paddedDigits 9 nanos

/-- The exact text of an instant. -/
def Instant.text (instant : Instant) : String :=
  String.ofList (instant.moment.text ++ fractionText instant.fraction ++ ['Z'])

/-- The text of an instant's second, the form that the search backend reads. -/
def Instant.secondText (instant : Instant) : String :=
  String.ofList (instant.moment.text ++ ['Z'])

/-- Digits at the start of a text, at least one and at most a number of them. -/
def digitsUpTo?
    (most : Nat)
    (characters : List Char) :
    Option (List Char × List Char) :=
  let digits := (characters.take most).takeWhile Char.isDigit
  if digits.isEmpty then none else some (digits, characters.drop digits.length)

/-- A number of one or two digits after white space. -/
def readPart? (characters : List Char) : Option (Int × List Char) :=
  (digitsUpTo? 2 (trimStart characters)).map fun (digits, rest) =>
    ((decimalValue digits : Int), rest)

/-- A year after white space: a sign and any number of digits,
or up to four digits. -/
def readYear? (characters : List Char) : Option (Int × List Char) :=
  let unlimited (rest : List Char) := digitsUpTo? rest.length rest
  match trimStart characters with
  | '-' :: rest =>
    (unlimited rest).map fun (digits, rest) =>
      (-(decimalValue digits : Int), rest)
  | '+' :: rest =>
    (unlimited rest).map fun (digits, rest) =>
      ((decimalValue digits : Int), rest)
  | rest =>
    (digitsUpTo? 4 rest).map fun (digits, rest) =>
      ((decimalValue digits : Int), rest)

/-- A separator with white space on both sides. -/
def readMark?
    (mark : Char)
    (characters : List Char) :
    Option (List Char) :=
  match trimStart characters with
  | first :: rest => if first = mark then some (trimStart rest) else none
  | [] => none

/-- The fraction of a second in nanoseconds: a point and digits, or nothing. -/
def readFraction? : List Char → Option (Nat × List Char)
  | '.' :: rest =>
    (digitsUpTo? 9 rest).map fun (digits, rest) =>
      (decimalValue digits * Nat.pow 10 (9 - digits.length),
        rest.dropWhile Char.isDigit)
  | rest => some (0, rest)

/-- Two digits of an offset. -/
def offsetDigits? : List Char → Option (Int × List Char)
  | tens :: ones :: rest => do
    let tens ← digitValue? tens
    let ones ← digitValue? ones
    return ((tens * 10 + ones : Nat), rest)
  | _ => none

/-- The offset from UTC in seconds: `Z`, `UTC`, or a sign, hours and minutes. -/
def readOffset? (characters : List Char) : Option (Int × List Char) :=
  let signed (factor : Int) (rest : List Char) : Option (Int × List Char) := do
    let (hours, rest) ← offsetDigits? rest
    let (minutes, rest) ← offsetDigits?
      (rest.dropWhile fun c => c == ':' || isBlank c)
    if minutes < 60 then return (factor * (hours * 3600 + minutes * 60), rest)
    else none
  if (characters.take 3).map Char.toUpper = ['U', 'T', 'C'] then
    some (0, characters.drop 3)
  else
    match characters with
    | 'Z' :: rest | 'z' :: rest => some (0, rest)
    | '+' :: rest => signed 1 rest
    | '-' :: rest | '−' :: rest => signed (-1) rest
    | _ => none

/-- The instant of a local reading at an offset; none where a part is out of
range.  The second 60 is a leap second whatever the time of day. -/
def instantOf?
    (moment : Moment)
    (fraction : Nat)
    (offset : Int) :
    Option Instant :=
  let leap := moment.second = 60
  let shown := if leap then 59 else moment.second
  let second :=
    moment.date.toDay * secondsPerDay + moment.hour * 3600 +
      moment.minute * 60 + shown - offset
  let nanos := if leap then nanosPerSecond + fraction else fraction
  if sound :
      leastYear ≤ moment.date.year ∧ moment.date.year ≤ greatestYear ∧
        moment.date.Valid ∧
        moment.hour < 24 ∧ moment.minute < 60 ∧ moment.second ≤ 60 ∧
        offset.natAbs < secondsPerDay.natAbs ∧ InRange second ∧
        nanos < 2 * nanosPerSecond ∧
        (nanosPerSecond ≤ nanos → second % 60 = 59) then
    some
      { second
        nanos
        inRange := sound.2.2.2.2.2.2.2.1
        nanos_lt := sound.2.2.2.2.2.2.2.2.1
        leap_at_end := sound.2.2.2.2.2.2.2.2.2 }
  else none

/-- The instant that a text writes. -/
def Instant.read? (text : String) : Option Instant := do
  let (year, rest) ← readYear? text.toList
  let rest ← readMark? '-' rest
  let (month, rest) ← readPart? rest
  let rest ← readMark? '-' rest
  let (day, rest) ← readPart? rest
  let rest ←
    match rest with
    | 'T' :: rest | 't' :: rest | ' ' :: rest => some rest
    | _ => none
  let (hour, rest) ← readPart? rest
  let rest ← readMark? ':' rest
  let (minute, rest) ← readPart? rest
  let rest ← readMark? ':' rest
  let (second, rest) ← readPart? rest
  let (fraction, rest) ← readFraction? rest
  let (offset, rest) ← readOffset? (trimStart rest)
  if rest.all isBlank then
    instantOf? { date := { year, month, day }, hour, minute, second } fraction
      offset
  else none

end TabularSearch.Time
