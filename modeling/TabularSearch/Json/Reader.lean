import TabularSearch.Binary64.Decimal
import TabularSearch.Json.Document
import TabularSearch.Text.Ascii

/-!
# Reading JSON text

The text is cut into tokens, and the tokens drive a machine whose state is
the stack of arrays and objects that are open.  Every text has a document:
where it stops being JSON the open arrays and objects are left unclosed
around a torn end.  `readDocument` also returns whether anything but white
space follows the value.

An array or object inside `nestingLimit` others is flawed, as are numbers too
large for a finite binary number and strings with half of a surrogate pair.
-/

namespace TabularSearch.Json

open TabularSearch.Text

/-- A word of a JSON text. -/
inductive Token where
  | openArray
  | closeArray
  | openObject
  | closeObject
  | colon
  | comma
  /-- A string; none where it is well formed but no Unicode text. -/
  | string (text : Option String)
  /-- Any other value without parts. -/
  | leaf (document : Document)
  /-- No token starts here. -/
  | broken

/-- White space between tokens: space, tab, line feed, carriage return. -/
def isSpace (character : Char) : Bool :=
  character == ' ' || character == '\t' || character == '\n' ||
    character == '\r'

/-- A code unit written by four hexadecimal digits. -/
def codeUnit? (first second third fourth : Char) : Option Nat := do
  let first ← hexValue? first
  let second ← hexValue? second
  let third ← hexValue? third
  let fourth ← hexValue? fourth
  return ((first * 16 + second) * 16 + third) * 16 + fourth

/-- The character behind a backslash, for the escapes of one character. -/
def simpleEscape? : Char → Option Char
  | '"' => some '"'
  | '\\' => some '\\'
  | '/' => some '/'
  | 'b' => some (Char.ofNat 0x08)
  | 'f' => some (Char.ofNat 0x0C)
  | 'n' => some '\n'
  | 'r' => some '\r'
  | 't' => some '\t'
  | _ => none

/-- What is known of a string that is being scanned. -/
structure StringScan where
  /-- The characters so far, the last one first. -/
  read : List Char
  /-- A high surrogate that waits for its other half. -/
  pending : Option Nat
  /-- No half of a pair was without its other half so far. -/
  sound : Bool

namespace StringScan

/-- A character follows, so no half may wait. -/
def push
    (scan : StringScan)
    (character : Char) :
    StringScan :=
  { read := character :: scan.read
    pending := none
    sound := scan.sound && scan.pending.isNone }

/-- An escaped code unit follows. -/
def pushUnit
    (scan : StringScan)
    (unit : Nat) :
    StringScan :=
  match scan.pending with
  | some high =>
    if 0xDC00 ≤ unit ∧ unit ≤ 0xDFFF then
      { scan with
        read :=
          Char.ofNat (0x10000 + (high - 0xD800) * 0x400 + (unit - 0xDC00)) ::
            scan.read
        pending := none }
    else { scan with pending := none, sound := false }
  | none =>
    if 0xD800 ≤ unit ∧ unit ≤ 0xDBFF then { scan with pending := some unit }
    else if 0xDC00 ≤ unit ∧ unit ≤ 0xDFFF then { scan with sound := false }
    else { scan with read := Char.ofNat unit :: scan.read }

/-- The text of a string that is closed here. -/
def finish (scan : StringScan) : Option String :=
  if scan.sound && scan.pending.isNone then
    some (String.ofList scan.read.reverse)
  else none

end StringScan

/-- The rest of a string after its opening quote; none where
it is not well formed. -/
def scanString (scan : StringScan) :
    List Char → Option (Option String × List Char)
  | '"' :: rest => some (scan.finish, rest)
  | '\\' :: 'u' :: first :: second :: third :: fourth :: rest =>
    match codeUnit? first second third fourth with
    | some unit => scanString (scan.pushUnit unit) rest
    | none => none
  | '\\' :: letter :: rest =>
    match simpleEscape? letter with
    | some character => scanString (scan.push character) rest
    | none => none
  | character :: rest =>
    if character.toNat < 0x20 || character == '\\' then none
    else scanString (scan.push character) rest
  | [] => none

/-- A number in its parts: digits before the point, after it,
and the exponent. -/
structure NumberParts where
  negative : Bool
  whole : List Char
  fraction : Option (List Char)
  exponent : Option (Bool × List Char)

/-- The digits at the start of a text, and the rest. -/
def spanDigits (characters : List Char) : List Char × List Char :=
  (characters.takeWhile Char.isDigit, characters.dropWhile Char.isDigit)

/-- The exponent of a number; none where its digits are missing. -/
def scanExponent? (characters : List Char) :
    Option (Option (Bool × List Char) × List Char) :=
  let digitsAfter (negative : Bool) (rest : List Char) :=
    let (digits, rest) := spanDigits rest
    if digits.isEmpty then none else some (some (negative, digits), rest)
  match characters with
  | 'e' :: '-' :: rest | 'E' :: '-' :: rest => digitsAfter true rest
  | 'e' :: '+' :: rest | 'E' :: '+' :: rest => digitsAfter false rest
  | 'e' :: rest | 'E' :: rest => digitsAfter false rest
  | rest => some (none, rest)

/-- A number: no leading zero, digits on both sides of a point,
digits in an exponent. -/
def scanNumber? (characters : List Char) :
    Option (NumberParts × List Char) := do
  let (negative, rest) :=
    match characters with
    | '-' :: rest => (true, rest)
    | rest => (false, rest)
  let (whole, rest) := spanDigits rest
  match whole with
  | [] => none
  | '0' :: _ :: _ => none
  | _ =>
    let (fraction, rest) ←
      match rest with
      | '.' :: after =>
        let (digits, rest) := spanDigits after
        if digits.isEmpty then none else some (some digits, rest)
      | rest => some (none, rest)
    let (exponent, rest) ← scanExponent? rest
    return ({ negative, whole, fraction, exponent }, rest)

/-- A significand of at most 64 bits with the number of digits
that no longer fit. -/
def takeSignificand
    (significand : Nat) :
    List Char → Nat × Nat
  | [] => (significand, 0)
  | digit :: rest =>
    let longer := significand * 10 + (digit.toNat - 48)
    if longer < 0x10000000000000000 then takeSignificand longer rest
    else (significand, rest.length + 1)

theorem takeSignificand_lt
    {significand : Nat}
    (small : significand < 0x10000000000000000)
    (digits : List Char) :
    (takeSignificand significand digits).1 < 0x10000000000000000 := by
  induction digits generalizing significand with
  | nil => exact small
  | cons digit rest step =>
    unfold takeSignificand
    dsimp only
    split
    · rename_i fits
      exact step fits
    · exact small

/-- Exponents are counted in 32 bits with a sign and stay at
the ends of that range. -/
def clampExponent (exponent : Int) : Int :=
  max (-0x80000000) (min 0x7fffffff exponent)

/--
The binary number of a literal.  Of the digits only as many count as fit 64
bits: further digits before the point count as zeros and further digits
after it are dropped.  The significand is then scaled by the power of ten
step by step.  A nonzero number whose exponent itself does not fit is too
large; a zero stays zero.
-/
def NumberParts.binary? (parts : NumberParts) : Option Binary64 :=
  let whole := takeSignificand 0 parts.whole
  let fraction := parts.fraction.getD []
  let all := takeSignificand whole.1 fraction
  let exponent : Int := whole.2 - ((fraction.length - all.2 : Nat) : Int)
  let small : all.1 < 0x10000000000000000 :=
    takeSignificand_lt (takeSignificand_lt (by decide) _) _
  let magnitude := Binary64.ofWord false all.1 small
  let scaled :=
    match parts.exponent with
    | none => magnitude.scaled? exponent
    | some (negative, digits) =>
      let written := decimalValue digits
      if 0x80000000 ≤ written then
        if all.1 ≠ 0 ∧ negative = false then none
        else some (Binary64.zero false)
      else
        magnitude.scaled?
          (clampExponent
            (if negative then exponent - written else exponent + written))
  scaled.map fun number => if parts.negative then number.negate else number

/-- The number of a literal: whole where it is written whole and fits 64 bits,
binary otherwise; minus zero is binary.  None is too large. -/
def NumberParts.number? (parts : NumberParts) : Option Number :=
  let value := decimalValue parts.whole
  match parts.fraction, parts.exponent with
  | none, none =>
    if parts.negative && value == 0 then some (.binary (Binary64.zero true))
    else
      let signed : Int := if parts.negative then -(value : Int) else value
      match Number.ofInt? signed with
      | some number => some number
      | none => parts.binary?.map .binary
  | _, _ => parts.binary?.map .binary

/-- The first token of a text that does not start with white
space, and the rest. -/
def nextToken : List Char → Token × List Char
  | '[' :: rest => (.openArray, rest)
  | ']' :: rest => (.closeArray, rest)
  | '{' :: rest => (.openObject, rest)
  | '}' :: rest => (.closeObject, rest)
  | ':' :: rest => (.colon, rest)
  | ',' :: rest => (.comma, rest)
  | 'n' :: 'u' :: 'l' :: 'l' :: rest => (.leaf .null, rest)
  | 't' :: 'r' :: 'u' :: 'e' :: rest => (.leaf (.bool true), rest)
  | 'f' :: 'a' :: 'l' :: 's' :: 'e' :: rest => (.leaf (.bool false), rest)
  | '"' :: rest =>
    match scanString { read := [], pending := none, sound := true } rest with
    | some (text, rest) => (.string text, rest)
    | none => (.broken, [])
  | characters =>
    match scanNumber? characters with
    | some (parts, rest) =>
      match parts.number? with
      | some number => (.leaf (.number number), rest)
      | none => (.leaf .flawed, rest)
    | none => (.broken, [])

/-- An array or object that is open, with its parts read so
far, the last one first. -/
inductive Frame where
  | array (elements : List Document)
  /-- The second part is the name whose value is still to come. -/
  | object (members : List (Option String × Document))
    (pending : Option (Option String))

/-- What the machine waits for inside the innermost frame. -/
inductive Expectation where
  /-- A value. -/
  | value
  /-- A value, or the end of the array just opened. -/
  | valueOrClose
  /-- A member name. -/
  | name
  /-- A member name, or the end of the object just opened. -/
  | nameOrClose
  /-- The colon after a member name. -/
  | colon
  /-- A comma, or the end of the innermost array or object. -/
  | separator
  deriving DecidableEq

/-- The machine is done with a value, or waits for something
inside its frames. -/
inductive Machine where
  | done (document : Document)
  | waiting (expectation : Expectation) (frames : List Frame)

/-- Arrays and objects may stand inside each other up to this
many levels, exclusively. -/
def nestingLimit : Nat := 128

/-- A closed array or object inside a number of others. -/
def sealed
    (outer : Nat)
    (document : Document) :
    Document :=
  if outer + 1 < nestingLimit then document
  else if document.isWellFormed then .flawed
  else .torn

namespace Machine

/-- A complete value goes into the innermost frame. -/
def accept (document : Document) : List Frame → Machine
  | [] => .done document
  | .array elements :: frames =>
    .waiting .separator (.array (document :: elements) :: frames)
  | .object members pending :: frames =>
    .waiting .separator
      (.object ((pending.join, document) :: members) none :: frames)

/-- The next state; none where the token may not stand. -/
def step?
    (expectation : Expectation)
    (frames : List Frame)
    (token : Token) :
    Option Machine :=
  match token, expectation, frames with
  | .leaf document, .value, _ | .leaf document, .valueOrClose, _ =>
    some (accept document frames)
  | .string text, .value, _ | .string text, .valueOrClose, _ =>
    some
      (accept (match text with | some text => .string text | none => .flawed)
        frames)
  | .openArray, .value, _ | .openArray, .valueOrClose, _ =>
    some (.waiting .valueOrClose (.array [] :: frames))
  | .openObject, .value, _ | .openObject, .valueOrClose, _ =>
    some (.waiting .nameOrClose (.object [] none :: frames))
  | .closeArray, .valueOrClose, .array elements :: outer
  | .closeArray, .separator, .array elements :: outer =>
    some (accept (sealed outer.length (.array elements.reverse true)) outer)
  | .closeObject, .nameOrClose, .object members _ :: outer
  | .closeObject, .separator, .object members _ :: outer =>
    some (accept (sealed outer.length (.object members.reverse true)) outer)
  | .string text, .name, .object members _ :: outer
  | .string text, .nameOrClose, .object members _ :: outer =>
    some (.waiting .colon (.object members (some text) :: outer))
  | .colon, .colon, _ => some (.waiting .value frames)
  | .comma, .separator, .array _ :: _ => some (.waiting .value frames)
  | .comma, .separator, .object _ _ :: _ => some (.waiting .name frames)
  | _, _, _ => none

/-- The document of a text that stops being JSON inside the frames. -/
def tear (inner : Document) : List Frame → Document
  | [] => inner
  | .array elements :: frames =>
    tear (.array (inner :: elements).reverse false) frames
  | .object members pending :: frames =>
    tear
      (.object
        (match pending with
          | some name => ((name, inner) :: members).reverse
          | none => members.reverse)
        false)
      frames

end Machine

/-- The machine run on a text; every token takes at least one
character of it. -/
def runMachine
    (expectation : Expectation)
    (frames : List Frame)
    (characters : List Char) :
    Nat → Document × List Char
  | 0 => (Machine.tear .torn frames, [])
  | fuel + 1 =>
    let (token, rest) := nextToken (characters.dropWhile isSpace)
    match Machine.step? expectation frames token with
    | none => (Machine.tear .torn frames, [])
    | some (.done document) => (document, rest)
    | some (.waiting expectation frames) =>
      runMachine expectation frames rest fuel

/-- The document at the start of a text, and what follows it. -/
def readDocument (characters : List Char) : Document × List Char :=
  runMachine .value [] characters (characters.length + 1)

/-- The document of a text with nothing but white space around
it; torn otherwise. -/
def parseDocument (text : String) : Document :=
  let (document, rest) := readDocument text.toList
  if rest.all isSpace then document else .torn

/-- The value that a text writes. -/
def parseValue? (text : String) : Option Value :=
  (parseDocument text).toValue?

end TabularSearch.Json
