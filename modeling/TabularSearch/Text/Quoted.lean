import TabularSearch.Text.Ascii

/-!
# Quoted text

Text is quoted for messages so that every character can be seen: quotes
and backslashes are escaped, and so are characters that print nothing or
change the one before them.
-/

namespace TabularSearch.Text

/-- Ranges of characters that print nothing by themselves, the
last one included. -/
def unseenRanges : List (Nat × Nat) :=
  [(0x00, 0x1f), (0x7f, 0xa0), (0xad, 0xad), (0x300, 0x36f), (0x483, 0x489),
    (0x591, 0x5bd), (0x600, 0x605), (0x610, 0x61a), (0x61c, 0x61c),
    (0x64b, 0x65f), (0x1680, 0x1680), (0x1ab0, 0x1aff), (0x1dc0, 0x1dff),
    (0x2000, 0x200f), (0x2028, 0x202f), (0x205f, 0x206f), (0x20d0, 0x20f0),
    (0x3000, 0x3000), (0x302a, 0x302f), (0x3099, 0x309a), (0xe000, 0xf8ff),
    (0xfe00, 0xfe0f), (0xfe20, 0xfe2f), (0xfeff, 0xfeff), (0xfff0, 0xfffb),
    (0xfffe, 0xffff), (0xe0000, 0x10ffff)]

/-- Whether a character can be seen by itself. -/
def isSeen (character : Char) : Bool :=
  unseenRanges.all fun range =>
    !(range.1 ≤ character.toNat && character.toNat ≤ range.2)

/-- A character inside quotes. -/
def quotedChar (character : Char) : List Char :=
  if character = '"' then ['\\', '"']
  else if character = '\\' then ['\\', '\\']
  else if character = '\n' then ['\\', 'n']
  else if character = '\t' then ['\\', 't']
  else if character = '\r' then ['\\', 'r']
  else if character = Char.ofNat 0 then ['\\', '0']
  else if isSeen character then [character]
  else '\\' :: 'u' :: '\x7b' :: Nat.toDigits 16 character.toNat ++ ['\x7d']

/-- A text in quotes. -/
def quoted (text : String) : String :=
  String.ofList ('"' :: text.toList.flatMap quotedChar ++ ['"'])

end TabularSearch.Text
