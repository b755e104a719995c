/-!
# White space

The characters with the Unicode property `White_Space`, the removal of them from
the ends of a text, and the texts that hold nothing else.
-/

namespace TabularSearch.Text

/-- The characters with the Unicode property `White_Space`. -/
def isBlank (character : Char) : Bool :=
  let code := character.toNat
  (0x09 ≤ code && code ≤ 0x0D) || code == 0x20 || code == 0x85 ||
    code == 0xA0 ||
    code == 0x1680 || (0x2000 ≤ code && code ≤ 0x200A) || code == 0x2028 ||
    code == 0x2029 || code == 0x202F || code == 0x205F || code == 0x3000

/-- The text without the white space it starts with. -/
def trimStart (characters : List Char) : List Char :=
  characters.dropWhile isBlank

/-- The text without the white space it ends with. -/
def trimEnd (characters : List Char) : List Char :=
  (trimStart characters.reverse).reverse

/-- The text without the white space at both ends. -/
def trim (characters : List Char) : List Char :=
  trimEnd (trimStart characters)

/-- A text with no character other than white space, the empty one included. -/
def isAllBlank (text : String) : Bool :=
  text.toList.all isBlank

end TabularSearch.Text
