import SearchQL.Match.Escape
import SearchQL.Text.Lowercase

/-!
# Relaxed escaping — match text with a few operators left to its writer

Someone who types into a search box may mean `|`, a leading `-`, `*` and quoted
phrases. Relaxed escaping keeps those and guards the rest, in five stages:

1. a backslash before each operator that stays guarded;
2. a closing quote if the quotes do not pair up;
3. of dashes with nothing but blanks between them, only the last one stays;
4. a dash inside a word is guarded, and the word put in quotes unless it already
   stands in them;
5. lower case, so that no word can be read as an operator.

Words are what spaces separate; other blanks are part of a word.
-/

namespace SearchQL.Match

/-- The operators that relaxed escaping guards. -/
def guardedOperators : List Char :=
  ['\\', '(', ')', '!', '@', '~', '&', '/', '^', '$', '=', '<']

/-- A text with a closing quote if it holds an odd number of quotes. -/
def closeQuotes (cs : List Char) : List Char :=
  if cs.count '"' % 2 = 1 then cs ++ ['"'] else cs

/-! ## Runs of dashes -/

/-- Puts a character in front of a text whose dashes are collapsed. A dash is dropped, with the
blanks behind it, when the next character that is not blank is a dash. -/
def pushCollapsed (c : Char) (rest : List Char) : List Char :=
  if c = '-' then
    match rest.dropWhile Text.isBlank with
    | '-' :: more => '-' :: more
    | _ => '-' :: rest
  else c :: rest

theorem pushCollapsed_of_ne {c : Char} (h : c ≠ '-') (rest : List Char) :
    pushCollapsed c rest = c :: rest := by
  rw [pushCollapsed, if_neg h]

/-- A text without the dashes that another dash follows, blanks between them apart. -/
def collapseDashes (cs : List Char) : List Char := cs.foldr pushCollapsed []

@[simp]
theorem collapseDashes_nil : collapseDashes [] = [] := rfl

@[simp]
theorem collapseDashes_cons (c : Char) (cs : List Char) :
    collapseDashes (c :: cs) = pushCollapsed c (collapseDashes cs) := rfl

/-! ## Dashes inside words -/

/-- The rest of a word with a backslash before each dash that does not have one; the first
argument is the character before. -/
def guardDashes (before : Char) : List Char → List Char
  | [] => []
  | c :: rest =>
    if c = '-' ∧ before ≠ '\\' then '\\' :: c :: guardDashes c rest else c :: guardDashes c rest

theorem guardDashes_of_ne {c : Char} (h : c ≠ '-') (before : Char) (rest : List Char) :
    guardDashes before (c :: rest) = c :: guardDashes c rest := by
  rw [guardDashes, if_neg fun both => h both.1]

/-- The first character of a word is left alone, as if a backslash stood before it. -/
theorem guardDashes_backslash (c : Char) (rest : List Char) :
    guardDashes '\\' (c :: rest) = c :: guardDashes c rest := by
  rw [guardDashes, if_neg fun both => both.2 rfl]

/-- Whether a text of at least two characters begins and ends with a quote. -/
def isQuoted (cs : List Char) : Bool :=
  cs.head? == some '"' && cs.getLast? == some '"' && decide (1 < cs.length)

/-- A word whose inner dashes are guarded, in quotes if there are any. -/
def guardWord : List Char → List Char
  | [] => []
  | c :: rest =>
    let guarded := c :: guardDashes c rest
    if guarded = c :: rest then c :: rest
    else if isQuoted guarded then guarded
    else '"' :: guarded ++ ['"']

/-- The words of a text, each one guarded. -/
def guardWords (cs : List Char) : List Char := [' '].intercalate ((cs.splitOn ' ').map guardWord)

/-! ## The stages together -/

/-- Match text with the operators of its writer. -/
def relaxChars (cs : List Char) : List Char :=
  Text.lowercase
    (guardWords (collapseDashes (closeQuotes (cs.flatMap (guardChar guardedOperators)))))

/-- Match text with the operators of its writer. -/
def relax (text : String) : String := String.ofList (relaxChars text.toList)

end SearchQL.Match
