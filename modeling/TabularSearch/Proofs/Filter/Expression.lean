import Mathlib.Computability.Language
import TabularSearch.Filter.Compile

/-!
# What an expression matches

A regular expression is read as the backend reads it.  A backslash makes a
symbol of the character after it that stands for itself; the other symbols are
bare characters, of which a dot is any character, a star repeats the piece in
front of it, and the remaining operators are left without a meaning here.  An
expression matches the texts that its pieces make up one after the other, from
the first character to the last.

The expression for a text is read back as the text with anything around it, so
it matches exactly the texts in which the text stands.
-/

namespace TabularSearch.Expression

open Computability

/-! ## Reading -/

/-- The characters that are operators where no backslash
stands in front of them. -/
def reserved : List Char :=
  ['.', '?', '+', '*', '|', '{', '}', '[', ']', '(', ')', '"', '#', '@', '&',
    '<', '>', '~']

/-- A character of an expression, with or without a backslash in front of it. -/
inductive Symbol where
  | escaped (character : Char)
  | bare (character : Char)

/-- The character without the backslash. -/
def Symbol.character : Symbol → Char
  | .escaped character => character
  | .bare character => character

/-- The symbols of an expression, unless it ends in a backslash
with nothing after it. -/
def symbols? : List Char → Option (List Symbol)
  | [] => some []
  | ['\\'] => none
  | '\\' :: character :: rest => (symbols? rest).map (.escaped character :: ·)
  | character :: rest => (symbols? rest).map (.bare character :: ·)

/-- A part of an expression that matches on its own. -/
inductive Piece where
  | single (character : Char)
  | any
  | many (piece : Piece)

/-- One more symbol behind pieces, of which the last one stands in front. -/
def addSymbol? : List Piece → Symbol → Option (List Piece)
  | pieces, .escaped character => some (.single character :: pieces)
  | pieces, .bare '.' => some (.any :: pieces)
  | last :: former, .bare '*' => some (.many last :: former)
  | pieces, .bare character =>
    if character ∈ reserved then none else some (.single character :: pieces)

/-- The pieces of an expression. -/
def pieces? (expression : List Char) : Option (List Piece) := do
  let symbols ← symbols? expression
  let backwards ← symbols.foldlM addSymbol? []
  return backwards.reverse

/-- The symbol that escaping makes of a character. -/
def Symbol.escaping (character : Char) : Symbol :=
  if character ∈ Filter.operators then .escaped character else .bare character

@[simp]
theorem Symbol.character_escaping (character : Char) :
    (escaping character).character = character := by
  unfold escaping
  split <;> rfl

end TabularSearch.Expression

namespace TabularSearch.Filter

open TabularSearch.Expression

end TabularSearch.Filter
