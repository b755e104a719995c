import TabularSearch.Url.Address
import TabularSearch.Url.Punycode

/-!
# Host names

A host name is compared in lower case.  Letters that have a lower case form are
folded, wide forms of ASCII become ASCII, and invisible characters are dropped;
then every label with characters beyond ASCII is written in Punycode after the
mark `xn--`.  The folding covers the Latin, Greek, Cyrillic and Armenian letters
that differ from their lower case by a fixed distance; characters of scripts
without case stand for themselves.
-/

namespace TabularSearch.Url

/-- Code points of an interval in which every second one is an
upper case letter. -/
def pairedCase
    (first last code : Nat) :
    Bool :=
  first ≤ code && code ≤ last && (code - first) % 2 == 0

/-- The distance from an upper case letter to its lower case form. -/
def caseDistance (code : Nat) : Nat :=
  if (0x41 ≤ code && code ≤ 0x5A) ||
    (0xC0 ≤ code && code ≤ 0xDE && code != 0xD7) then 32
  else if pairedCase 0x100 0x12E code || pairedCase 0x132 0x136 code ||
      pairedCase 0x139 0x147 code || pairedCase 0x14A 0x176 code ||
      pairedCase 0x179 0x17D code || pairedCase 0x460 0x480 code ||
      pairedCase 0x48A 0x4BE code || pairedCase 0x4C1 0x4CD code ||
      pairedCase 0x4D0 0x52E code || pairedCase 0x1E00 0x1E94 code ||
      pairedCase 0x1EA0 0x1EFE code then 1
  else if (0x391 ≤ code && code ≤ 0x3AB && code != 0x3A2) ||
      (0x410 ≤ code && code ≤ 0x42F) then 32
  else if 0x388 ≤ code && code ≤ 0x38A then 37
  else if code == 0x386 then 38
  else if code == 0x38C then 64
  else if code == 0x38E || code == 0x38F then 63
  else if 0x400 ≤ code && code ≤ 0x40F then 80
  else if 0x531 ≤ code && code ≤ 0x556 then 48
  else 0

/-- Characters that are dropped from host names. -/
def isInvisible (code : Nat) : Bool :=
  code == 0xAD || code == 0x34F || code == 0x200B || code == 0x2060 ||
    code == 0xFEFF ||
    (0x180B ≤ code && code ≤ 0x180D) || (0xFE00 ≤ code && code ≤ 0xFE0F)

/-- Characters beyond ASCII that no host name may hold. -/
def isForbiddenBeyondAscii (code : Nat) : Bool :=
  (0x80 ≤ code && code ≤ 0xA0) || code == 0x1680 ||
    (0x2000 ≤ code && code ≤ 0x200F) ||
    (0x2028 ≤ code && code ≤ 0x202F) || (0x205F ≤ code && code ≤ 0x206F) ||
      code == 0x3000 ||
    (0xE000 ≤ code && code ≤ 0xF8FF) || (0xFDD0 ≤ code && code ≤ 0xFDEF) ||
    (0xFFF0 ≤ code && code ≤ 0xFFFF) || 0xE0000 ≤ code

/-- The character or characters that stand for one in a host name. -/
def foldCharacter (character : Char) : List Char :=
  let code := character.toNat
  if isInvisible code then []
  else if code == 0x3002 || code == 0xFF0E || code == 0xFF61 then ['.']
  else if 0xFF01 ≤ code && code ≤ 0xFF5E then
    [(Char.ofNat (code - 0xFEE0)).toLower]
  else if code == 0x178 then ['ÿ']
  else if code == 0x17F then ['s']
  else if code == 0x1E9E then ['s', 's']
  else [Char.ofNat (code + caseDistance code)]

/-- ASCII characters that no host name may hold. -/
def isForbiddenAscii (character : Char) : Bool :=
  character.toNat ≤ 0x20 || character.toNat == 0x7F ||
    ['#', '/', ':', '<', '>', '?', '@', '[', '\\', ']', '^', '|', '%'].contains
      character

/-- The characters that no name may hold. -/
def isForbiddenInName (character : Char) : Bool :=
  isForbiddenAscii character || isForbiddenBeyondAscii character.toNat

/-- The mark of a label in Punycode. -/
def punycodeMark : List Char := ['x', 'n', '-', '-']

/-- A label that is marked has to be the Punycode of folded
characters beyond ASCII. -/
def isSoundLabel (label : List Char) : Bool :=
  if label.take 4 = punycodeMark then
    match Punycode.decode? (label.drop 4) with
    | some decoded =>
      decoded.any (fun character => 0x80 ≤ character.toNat) &&
        !decoded.any isForbiddenInName &&
          decoded.flatMap foldCharacter == decoded
    | none => false
  else true

/-- The ASCII form of a folded label. -/
def labelText (label : List Char) : List Char :=
  if label.any fun character => 0x80 ≤ character.toNat then
    punycodeMark ++ Punycode.encode label
  else label

/-- The ASCII form of a host name; none if a character or
label is not allowed. -/
def asciiName? (name : List Char) : Option (List Char) :=
  let labels := splitAt '.' (name.flatMap foldCharacter)
  if labels.any (fun label => label.any isForbiddenInName) then none
  else if labels.all isSoundLabel then
    some (['.'].intercalate (labels.map labelText))
  else none

end TabularSearch.Url
