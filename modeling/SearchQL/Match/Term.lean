import SearchQL.Match.Relaxed

/-!
# Match terms — one group per term, and the fields it searches

A query searches for a list of terms. Each is written as a group in parentheses:
the fields that it is confined to, if any, and its text, escaped in one of two
ways. The groups stand in the order of the terms, a space between each two.
-/

namespace SearchQL

/-- The full-text fields that a term searches. -/
inductive MatchTarget where
  | all
  | one (field : String)
  | many (fields : List String)
deriving DecidableEq, Repr

namespace MatchTarget

/-- The target that one name stands for; a star or no name at all stands for every field. -/
def ofName (name : String) : MatchTarget :=
  let field := Text.trim name
  if field = "" ∨ field = "*" then .all else .one field

/-- The selector that confines a group to its fields. -/
def selector : MatchTarget → String
  | all => ""
  | one field => "@" ++ field ++ " "
  | many fields => "@(" ++ ",".intercalate fields ++ ") "

end MatchTarget

/-- One full-text term. -/
structure MatchTerm where
  target : MatchTarget
  text : String
  /-- Whether the operators of the text's writer are kept. -/
  relaxed : Bool
deriving DecidableEq, Repr

namespace MatchTerm

/-- A term as a group. -/
def group (term : MatchTerm) : String :=
  "(" ++ term.target.selector ++
    (if term.relaxed then Match.relax term.text else Match.escape term.text) ++ ")"

/-- The match expression of a list of terms; without terms there is none. -/
def expression? (terms : List MatchTerm) : Option String :=
  if terms.isEmpty then none else some (Text.trim (" ".intercalate (terms.map group)))

theorem exists_toList_group (term : MatchTerm) :
    ∃ cs, term.group.toList = '(' :: (cs ++ [')']) := by
  simp only [group, String.toList_append]
  exact ⟨_, rfl⟩

/-- Groups with a space between each two begin and end with a parenthesis. -/
theorem exists_toList_groups :
    ∀ {terms : List MatchTerm}, terms ≠ [] →
      ∃ cs, (" ".intercalate (terms.map group)).toList = '(' :: (cs ++ [')'])
  | [], nonempty => absurd rfl nonempty
  | [term], _ => by
    rw [List.map_singleton, String.intercalate_singleton]
    exact term.exists_toList_group
  | term :: next :: terms, _ => by
    obtain ⟨inner, head⟩ := term.exists_toList_group
    obtain ⟨others, tail⟩ := exists_toList_groups (List.cons_ne_nil next terms)
    refine ⟨inner ++ ')' :: ' ' :: '(' :: others, ?_⟩
    rw [List.map_cons] at tail
    rw [List.map_cons, List.map_cons, String.intercalate_cons_cons, String.toList_append,
      String.toList_append, head, tail]
    simp

/-- The groups are the expression: there is nothing to trim. -/
theorem expression?_of_ne_nil {terms : List MatchTerm} (nonempty : terms ≠ []) :
    expression? terms = some (" ".intercalate (terms.map group)) := by
  obtain ⟨cs, ends⟩ := exists_toList_groups nonempty
  rw [expression?, if_neg (by simpa using nonempty), Text.trim, ends,
    Text.trimChars_of_ends (by decide) (by decide), ← ends, String.ofList_toList]

end MatchTerm

end SearchQL
