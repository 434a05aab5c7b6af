import SearchQL.Param

/-!
# Placeholders — question marks outside quotes, and what replaces them

A question mark is a placeholder unless it stands inside a quoted region of the
statement. A region opens with one of three quote marks and closes with the same
mark; inside it a backslash takes the meaning away from the character after it.
A region that never closes runs to the end.

The scan is a machine with one step per character (`Quoting.step`). Counting and
filling run the same machine, so a placeholder that is counted is a placeholder
that is filled.
-/

namespace SearchQL

/-- Where a character of a statement stands. -/
inductive Quoting where
  | outside
  | inside (mark : Char)
  /-- Inside a region, behind a backslash. -/
  | escaped (mark : Char)
deriving DecidableEq, Repr

namespace Quoting

/-- The characters that open a quoted region. -/
def isMark (c : Char) : Bool := c == '\x27' || c == '"' || c == '\x60'

/-- Where the next character stands. -/
def step : Quoting → Char → Quoting
  | outside, c => if isMark c then inside c else outside
  | inside mark, c => if c = '\\' then escaped mark else if c = mark then outside else inside mark
  | escaped mark, _ => inside mark

/-- Whether a character is a placeholder where it stands. -/
def isPlaceholder (q : Quoting) (c : Char) : Bool := q == outside && c == '?'

/-- Where the character after a text stands. -/
def run (q : Quoting) (cs : List Char) : Quoting := cs.foldl step q

/-- How many placeholders a text holds. -/
def count (q : Quoting) : List Char → Nat
  | [] => 0
  | c :: rest => (if q.isPlaceholder c then 1 else 0) + count (q.step c) rest

/-- A text with its placeholders replaced in order. A placeholder beyond the last parameter
stays. -/
def fill (q : Quoting) : List Char → List Param → List Char
  | [], _ => []
  | c :: rest, params =>
    if q.isPlaceholder c then
      match params with
      | p :: params => p.literal.toList ++ fill (q.step c) rest params
      | [] => c :: fill (q.step c) rest []
    else c :: fill (q.step c) rest params

@[simp]
theorem run_nil (q : Quoting) : q.run [] = q := rfl

@[simp]
theorem run_cons (q : Quoting) (c : Char) (cs : List Char) : q.run (c :: cs) = (q.step c).run cs :=
  rfl

theorem run_append (q : Quoting) (a b : List Char) : q.run (a ++ b) = (q.run a).run b :=
  List.foldl_append

theorem count_append (q : Quoting) (a b : List Char) :
    q.count (a ++ b) = q.count a + (q.run a).count b := by
  induction a generalizing q with
  | nil => simp [run, count]
  | cons c rest ih => simp [run, count, ih, Nat.add_assoc]

/-- Each part of a text takes as many parameters as it has placeholders. -/
theorem fill_append (q : Quoting) (a b : List Char) (params : List Param) :
    q.fill (a ++ b) params =
      q.fill a (params.take (q.count a)) ++ (q.run a).fill b (params.drop (q.count a)) := by
  induction a generalizing q params with
  | nil => simp [run, count, fill]
  | cons c rest ih =>
    by_cases h : q.isPlaceholder c
    · cases params with
      | nil => simp [run, count, fill, h, ih]
      | cons p params => simp [run, count, fill, h, ih, Nat.add_comm 1]
    · simp [run, count, fill, h, ih]

end Quoting

/-- The statement that is sent for a text with placeholders and its parameters. -/
def interpolate (sql : String) (params : List Param) : Except Error String :=
  let cs := sql.toList
  let placeholders := Quoting.outside.count cs
  if placeholders = params.length then .ok (String.ofList (Quoting.outside.fill cs params))
  else .error (.bindingMismatch placeholders params.length)

end SearchQL
