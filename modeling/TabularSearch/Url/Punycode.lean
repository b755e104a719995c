import TabularSearch.Text.Ascii

/-!
# Punycode

Characters beyond ASCII are written after the ASCII characters of a label,
in the order of their code points and places.  Each is a difference to the
one before, in digits of base 36 whose thresholds follow a bias that adapts
to the differences seen.
-/

namespace TabularSearch.Url.Punycode

/-- The digit of a value below 36. -/
def digitChar (value : Nat) : Char :=
  if value < 26 then Char.ofNat (0x61 + value)
  else Char.ofNat (0x30 + (value - 26))

/-- The value of a digit in either case. -/
def digitValue? (character : Char) : Option Nat :=
  if 'a' ≤ character ∧ character ≤ 'z' then some (character.toNat - 0x61)
  else if 'A' ≤ character ∧ character ≤ 'Z' then some (character.toNat - 0x41)
  else if '0' ≤ character ∧ character ≤ '9' then
    some (character.toNat - 0x30 + 26)
  else none

/-- The least digit value that goes on at a place. -/
def threshold (place bias : Nat) : Nat :=
  if place ≤ bias then 1 else if bias + 26 ≤ place then 26 else place - bias

theorem threshold_pos (place bias : Nat) : 1 ≤ threshold place bias := by
  unfold threshold
  split
  · omega
  · split <;> omega

/-- The bias that a scaled difference calls for, from a place on. -/
def settle (difference place : Nat) : Nat :=
  if 455 < difference then settle (difference / 35) (place + 36)
  else place + 36 * difference / (difference + 38)
termination_by difference
decreasing_by omega

/-- The bias after a difference when a number of characters is written. -/
def adapt
    (difference written : Nat)
    (first : Bool) :
    Nat :=
  let scaled := if first then difference / 700 else difference / 2
  settle (scaled + scaled / written) 0

/-- The digits of a difference from a place on. -/
def differenceDigits (bias place difference : Nat) : List Char :=
  let least := threshold place bias
  if difference < least then [digitChar difference]
  else
    digitChar (least + (difference - least) % (36 - least)) ::
      differenceDigits bias (place + 36) ((difference - least) / (36 - least))
termination_by difference
decreasing_by
  have positive := threshold_pos place bias
  have small :=
    Nat.div_le_self (difference - threshold place bias)
      (36 - threshold place bias)
  omega

/-- What has been written, and the difference that has built up since. -/
structure Progress where
  text : List Char
  difference : Nat
  bias : Nat
  written : Nat

/-- One look at a character while the characters of one code
point are written. -/
def Progress.scan
    (basicCount code : Nat)
    (progress : Progress)
    (character : Char) :
    Progress :=
  if character.toNat < code then
    { progress with difference := progress.difference + 1 }
  else if character.toNat = code then
    { text := progress.text ++
        differenceDigits progress.bias 36 progress.difference
      difference := 0
      bias :=
        adapt progress.difference (progress.written + 1)
          (progress.written = basicCount)
      written := progress.written + 1 }
  else progress

/-- A number put into an ascending list unless it is there. -/
def insertAscending (number : Nat) : List Nat → List Nat
  | [] => [number]
  | first :: rest =>
    if number < first then number :: first :: rest
    else if number = first then first :: rest
    else first :: insertAscending number rest

/-- The label's characters written code point by code point. -/
def encodeCodes
    (label : List Char)
    (basicCount : Nat) :
    Nat → Progress → List Nat → Progress
  | _, progress, [] => progress
  | next, progress, code :: rest =>
    let before :=
      { progress with
        difference :=
          progress.difference + (code - next) * (progress.written + 1) }
    let after := label.foldl (Progress.scan basicCount code) before
    encodeCodes label basicCount (code + 1)
      { after with difference := after.difference + 1 } rest

/-- The ASCII form of a label, without the mark that tells it
from a plain one. -/
def encode (label : List Char) : List Char :=
  let basic := label.filter fun character => character.toNat < 0x80
  let codes :=
    (label.filter fun character => 0x80 ≤ character.toNat).foldr
      (fun character codes => insertAscending character.toNat codes) []
  let start :=
    { text := [], difference := 0, bias := 72, written := basic.length }
  basic ++ (if basic.isEmpty then [] else ['-']) ++
    (encodeCodes label basic.length 0x80 start codes).text

/-- The difference that digits write, and what follows its last digit. -/
def readDifference? (bias : Nat) :
    Nat → Nat → Nat → List Char → Option (Nat × List Char)
  | _, _, _, [] => none
  | place, weight, sum, character :: rest =>
    match digitValue? character with
    | none => none
    | some value =>
      let least := threshold place bias
      if value < least then some (sum + value * weight, rest)
      else
        readDifference? bias (place + 36) (weight * (36 - least))
          (sum + value * weight) rest

/-- The characters that differences put among those read; no more
of them than the fuel. -/
def decodeFrom :
    Nat → Nat → Nat → Nat → List Char → List Char → Option (List Char)
  | _, _, _, _, read, [] => some read
  | 0, _, _, _, _, _ :: _ => none
  | fuel + 1, bias, code, place, read, text => do
    let (sum, rest) ← readDifference? bias 36 1 0 text
    let reached := place + sum
    let count := read.length + 1
    let code := code + reached / count
    if code.isValidChar then
      decodeFrom fuel (adapt sum count (place = 0)) code (reached % count + 1)
        (read.take (reached % count) ++ Char.ofNat code ::
          read.drop (reached % count)) rest
    else none

/-- The label with an ASCII form; none if it is the form of no label. -/
def decode? (text : List Char) : Option (List Char) :=
  let tail := (text.reverse.takeWhile (· ≠ '-')).reverse
  let basic := (text.take (text.length - tail.length)).dropLast
  if basic.any fun character => 0x80 ≤ character.toNat then none
  else decodeFrom text.length 72 0x80 0 basic tail

end TabularSearch.Url.Punycode
