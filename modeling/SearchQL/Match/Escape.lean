/-!
# Full escaping — match text that stands for itself

The daemon's full-text language gives fifteen characters a meaning. A text that
is to be searched for literally has a backslash before each of them and is
otherwise unchanged, so removing the backslashes gives the text back.
-/

namespace SearchQL.Match

/-- The characters that the full-text language gives a meaning. -/
def operators : List Char :=
  ['\\', '(', ')', '|', '-', '!', '@', '~', '"', '&', '/', '^', '$', '=', '<']

/-- A character with a backslash before it if it is among the given ones. -/
def guardChar (special : List Char) (c : Char) : List Char :=
  if c ∈ special then ['\\', c] else [c]

/-- Match text that stands for itself. -/
def escapeChars (cs : List Char) : List Char := cs.flatMap (guardChar operators)

/-- Match text that stands for itself. -/
def escape (text : String) : String := String.ofList (escapeChars text.toList)

end SearchQL.Match
