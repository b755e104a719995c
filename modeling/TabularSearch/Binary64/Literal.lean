import TabularSearch.Binary64.Decimal
import TabularSearch.Text.Ascii

/-!
# Numbers from text

A sign, digits with a point anywhere around or between them, and an
exponent; or one of the words `inf`, `infinity` and `nan` in any case.  The
number is the nearest one.
-/

namespace TabularSearch.Binary64

open TabularSearch.Text

/-- Digits before and after the point, and the power of ten
they are scaled by. -/
structure Literal where
  whole : List Char
  fraction : List Char
  exponent : Int

/-- The exponent that the rest of a literal writes; zero where
nothing is left. -/
def readExponent? : List Char → Option Int
  | [] => some 0
  | mark :: rest => if mark = 'e' ∨ mark = 'E' then signedInt? rest else none

/-- The parts of a literal without its sign. -/
def readLiteral? (text : List Char) : Option Literal := do
  let (whole, rest) := text.span Char.isDigit
  let (fraction, rest) :=
    match rest with
    | '.' :: rest => rest.span Char.isDigit
    | rest => ([], rest)
  if whole.isEmpty && fraction.isEmpty then none
  else return { whole, fraction, exponent := ← readExponent? rest }

/-- The nearest number to a literal; none if it is too large. -/
def Literal.nearest?
    (literal : Literal)
    (negative : Bool) :
    Option Binary64 :=
  Binary64.nearest? negative (decimalValue (literal.whole ++ literal.fraction))
    (literal.exponent - literal.fraction.length)

/-- The number that a text writes; inside, none for what is not finite. -/
def read? (text : String) : Option (Option Binary64) :=
  let (negative, unsigned) :=
    match text.toList with
    | '-' :: rest => (true, rest)
    | '+' :: rest => (false, rest)
    | rest => (false, rest)
  if lowerAscii (String.ofList unsigned) ∈ ["inf", "infinity", "nan"] then
    some none
  else (readLiteral? unsigned).map fun literal => literal.nearest? negative

end TabularSearch.Binary64
