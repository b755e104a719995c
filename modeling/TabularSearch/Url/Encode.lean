import TabularSearch.Text.Ascii

/-!
# Percent encoding

A byte that may not stand in a part of an address is written as a percent sign
and two upper case hexadecimal digits.  Which ASCII characters may not stand
depends on the part; the bytes of all other characters are always encoded.
-/

namespace TabularSearch.Url

/-- Characters that are encoded in every part: controls, delete
and all beyond ASCII. -/
def inControls (character : Char) : Bool :=
  character.toNat < 0x20 || 0x7E < character.toNat

/-- The characters that are encoded in a fragment. -/
def inFragment (character : Char) : Bool :=
  inControls character || [' ', '"', '<', '>', '`'].contains character

/-- The characters that are encoded in a query. -/
def inQuery (character : Char) : Bool :=
  inControls character || [' ', '"', '#', '<', '>'].contains character

/-- In the query of a special scheme the apostrophe is encoded, too. -/
def inSpecialQuery (character : Char) : Bool :=
  inQuery character || character == '\''

/-- The characters that are encoded in a path. -/
def inPath (character : Char) : Bool :=
  inFragment character || ['#', '?', '{', '}'].contains character

/-- In a single segment the separator and the percent sign are encoded, too. -/
def inSegment (character : Char) : Bool :=
  inPath character || ['/', '%'].contains character

/-- In a single segment of a special scheme the backslash is encoded, too. -/
def inSpecialSegment (character : Char) : Bool :=
  inSegment character || character == '\\'

/-- The characters that are encoded in a user's name. -/
def inUserInfo (character : Char) : Bool :=
  inPath character ||
    ['/', ':', ';', '=', '@', '[', '\\', ']', '^', '|'].contains character

/-- The upper case hexadecimal digit of a value below sixteen. -/
def upperHexDigit (value : Nat) : Char :=
  (Nat.digitChar value).toUpper

/-- A byte written as a percent sign and two digits. -/
def encodeByte (byte : UInt8) : List Char :=
  ['%', upperHexDigit (byte.toNat / 16), upperHexDigit (byte.toNat % 16)]

/-- A character, or its bytes encoded if it is in the set. -/
def encodeChar
    (inSet : Char → Bool)
    (character : Char) :
    List Char :=
  if inSet character then (String.utf8EncodeChar character).flatMap encodeByte
  else [character]

/-- A text with the characters of a set encoded. -/
def encode
    (inSet : Char → Bool)
    (text : List Char) :
    List Char :=
  text.flatMap (encodeChar inSet)

/-- The bytes of a text with every encoded byte decoded. -/
def decodeBytes : List Char → List UInt8
  | '%' :: high :: low :: rest =>
    match Text.hexValue? high, Text.hexValue? low with
    | some high, some low => UInt8.ofNat (high * 16 + low) :: decodeBytes rest
    | _, _ => String.utf8EncodeChar '%' ++ decodeBytes (high :: low :: rest)
  | character :: rest => String.utf8EncodeChar character ++ decodeBytes rest
  | [] => []

/-- The text that bytes are the UTF-8 form of. -/
def textOfBytes? (bytes : List UInt8) : Option String :=
  String.fromUTF8? ⟨bytes.toArray⟩

end TabularSearch.Url
