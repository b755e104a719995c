import TabularSearch.Time.Calendar
import TabularSearch.Toml.Text
import TabularSearch.Toml.Value

/-!
# TOML numbers, dates and times

Digits may be grouped by single underscores between them.  Whole numbers fit 64
bits with a sign; hexadecimal, octal and binary ones have no sign.  A number
with a point or an exponent is binary, and must not be too large.  Dates exist,
times run to `23:59:60`, and offsets to a day.
-/

namespace TabularSearch.Toml

open TabularSearch.Text

/-- Whether underscores stand alone and between other characters only. -/
def isGrouped : List Char → Bool
  | '_' :: _ | [] => false
  | [_] => true
  | _ :: '_' :: rest => isGrouped rest
  | _ :: rest => isGrouped rest

/-- Digits, of a kind, with single underscores between them; the
underscores are dropped. -/
def readDigits?
    (isDigit : Char → Bool)
    (text : List Char) :
    Option (List Char × List Char) :=
  let (run, rest) :=
    text.span fun character => isDigit character || character == '_'
  if isGrouped run then some (run.filter (· ≠ '_'), rest) else none

/-- A sign, where there is one. -/
def readSign : List Char → List Char × List Char
  | '-' :: rest => (['-'], rest)
  | '+' :: rest => (['+'], rest)
  | rest => ([], rest)

/-- A decimal whole number: a zero, or digits that do not start with one. -/
def readDecimal? : List Char → Option (List Char × List Char)
  | '0' :: rest => some (['0'], rest)
  | text => readDigits? Char.isDigit text

/-- A whole number of 64 bits with a sign. -/
def bounded? (number : Int) : Option Value :=
  if -0x8000000000000000 ≤ number ∧ number < 0x8000000000000000 then
    some (.integer number)
  else none

/-- A whole number in digits of a base. -/
def readBased?
    (base : Nat)
    (text : List Char) :
    Option (Value × List Char) := do
  let isDigit (character : Char) : Bool := (hexValue? character).any (· < base)
  let (digits, rest) ← readDigits? isDigit text
  let number :=
    digits.foldl (fun number digit => number * base + (hexValue? digit).getD 0)
      0
  return (← bounded? number, rest)

/-- A whole number. -/
def readInteger? : List Char → Option (Value × List Char)
  | '0' :: 'x' :: rest => readBased? 16 rest
  | '0' :: 'o' :: rest => readBased? 8 rest
  | '0' :: 'b' :: rest => readBased? 2 rest
  | text => do
    let (sign, rest) := readSign text
    let (digits, rest) ← readDecimal? rest
    let magnitude : Int := decimalValue digits
    return (← bounded? (if sign = ['-'] then -magnitude else magnitude), rest)

/-- What may come of a reading: nothing of the kind, an error, or
an item and the rest. -/
inductive Attempt (Item : Type) where
  | absent
  | broken
  | found (item : Item) (rest : List Char)

/-- A reading of which the kind is already settled. -/
def Attempt.settled {Item : Type} : Option (Item × List Char) → Attempt Item
  | some (item, rest) => .found item rest
  | none => .broken

/-- An exponent with its mark and sign. -/
def readExponentPart (text : List Char) : Attempt (List Char) :=
  match text with
  | mark :: rest =>
    if mark = 'e' ∨ mark = 'E' then
      let (sign, rest) := readSign rest
      .settled ((readDigits? Char.isDigit rest).map fun (digits, rest) =>
        ('e' :: (sign ++ digits), rest))
    else .absent
  | [] => .absent

/-- A fraction with its point, and an exponent behind it. -/
def readFractionPart (text : List Char) : Attempt (List Char) :=
  match text with
  | '.' :: rest =>
    match readDigits? Char.isDigit rest with
    | none => .broken
    | some (digits, rest) =>
      match readExponentPart rest with
      | .absent => .found ('.' :: digits) rest
      | .broken => .broken
      | .found exponent rest => .found ('.' :: (digits ++ exponent)) rest
  | _ => readExponentPart text

/-- The value of a decimal literal; one that is too large is refused
unless it is negative. -/
def floatValue? (literal : List Char) : Option Value := do
  let number ← Binary64.read? (String.ofList literal)
  if number.isNone ∧ literal.head? ≠ some '-' then none
  else return .float number

/-- A number with a point or an exponent, or one of the words
`inf` and `nan`. -/
def readFloat (text : List Char) : Attempt Value :=
  let (sign, rest) := readSign text
  match rest with
  | 'i' :: 'n' :: 'f' :: rest | 'n' :: 'a' :: 'n' :: rest =>
    .found (.float none) rest
  | _ =>
    match readDecimal? rest with
    | none => .absent
    | some (digits, rest) =>
      match readFractionPart rest with
      | .absent => .absent
      | .broken => .broken
      | .found part rest =>
        match floatValue? (sign ++ digits ++ part) with
        | some value => .found value rest
        | none => .broken

/-! ## Dates and times -/

/-- A number of exactly as many digits as asked for. -/
def readFixed?
    (width : Nat)
    (text : List Char) :
    Option (Nat × List Char) :=
  let digits := text.take width
  if digits.length = width ∧ digits.all Char.isDigit then
    some (decimalValue digits, text.drop width)
  else none

/-- What follows a mark. -/
def dropMark?
    (mark : Char) :
    List Char → Option (List Char)
  | first :: rest => if first = mark then some rest else none
  | [] => none

/-- What follows a date with a year, a month and a day that exist. -/
def dropDate (text : List Char) : Attempt Unit :=
  match (readFixed? 4 text).bind fun (year, rest) =>
    (dropMark? '-' rest).map (year, ·) with
  | none => .absent
  | some (year, rest) =>
    .settled do
      let (month, rest) ← readFixed? 2 rest
      let rest ← dropMark? '-' rest
      let (day, rest) ← readFixed? 2 rest
      let date : Time.Date := { year := year, month := month, day := day }
      if date.Valid then return ((), rest) else none

/-- What follows a fraction of a second: a point and digits. -/
def dropFraction? : List Char → Option (List Char)
  | '.' :: rest =>
    if (rest.takeWhile Char.isDigit).isEmpty then none
    else some (rest.dropWhile Char.isDigit)
  | rest => some rest

/-- What follows a time of day. -/
def dropTime (text : List Char) : Attempt Unit :=
  match
    (readFixed? 2 text).bind fun (hour, rest) =>
      if hour < 24 then dropMark? ':' rest else none with
  | none => .absent
  | some rest =>
    .settled do
      let (minute, rest) ← readFixed? 2 rest
      let rest ← dropMark? ':' rest
      let (second, rest) ← readFixed? 2 rest
      if minute < 60 ∧ second ≤ 60 then return ((), ← dropFraction? rest)
      else none

/-- What follows an offset: `Z`, or hours and minutes with a sign. -/
def dropOffset (text : List Char) : Attempt Unit :=
  match text with
  | 'Z' :: rest | 'z' :: rest => .found () rest
  | '+' :: rest | '-' :: rest =>
    .settled do
      let (hour, rest) ← readFixed? 2 rest
      let rest ← dropMark? ':' rest
      let (minute, rest) ← readFixed? 2 rest
      if hour < 24 ∧ minute < 60 then return ((), rest) else none
  | _ => .absent

/-- What follows the time of day and the offset behind a date,
where they are there. -/
def dropTimeOfDate (text : List Char) : Attempt Unit :=
  match text with
  | mark :: afterMark =>
    if mark = 'T' ∨ mark = 't' ∨ mark = ' ' then
      match dropTime afterMark with
      | .absent => .found () text
      | .broken => .broken
      | .found _ rest =>
        match dropOffset rest with
        | .absent => .found () rest
        | other => other
    else .found () text
  | [] => .found () []

/-- A date, a time or both. -/
def readDatetime (text : List Char) : Attempt Value :=
  let ended : Attempt Unit :=
    match dropDate text with
    | .absent => dropTime text
    | .broken => .broken
    | .found _ rest => dropTimeOfDate rest
  match ended with
  | .absent => .absent
  | .broken => .broken
  | .found _ rest =>
    .found (.datetime (String.ofList (text.take (text.length - rest.length))))
      rest

/-- A value that starts with a digit or a sign. -/
def readNumber? (text : List Char) : Option (Value × List Char) :=
  match readDatetime text with
  | .found value rest => some (value, rest)
  | .broken => none
  | .absent =>
    match readFloat text with
    | .found value rest => some (value, rest)
    | .broken => none
    | .absent => readInteger? text

end TabularSearch.Toml
