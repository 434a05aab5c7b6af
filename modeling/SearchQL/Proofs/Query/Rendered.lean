import SearchQL.Proofs.Filter.Formula
import SearchQL.Proofs.Query.Shape

/-!
# Rendered statements — every value in its place

A statement is sent as one text. This module writes that text down directly from
a query: each condition with its own values, each assignment with its own value,
each row with its own cells, and no question mark anywhere. It is the reference
for compiling and filling, which build the text and the list of values apart and
bring them together at the end.

`Fragment.literal` of a compiled statement is shown to be this text, part by
part. The filter goes through its formula: the same formula, written with
values or with question marks, keeps the same branches (`kept_map`).
-/

namespace SearchQL

/-! ## The text of the parts -/

/-- Values as a list in parentheses. -/
def Param.list (values : List Param) : String :=
  "(" ++ ", ".intercalate (values.map literal) ++ ")"

/-- A condition with its values in place. -/
def Condition.rendered : Condition → String
  | compare column operator value => column ++ " " ++ operator ++ " " ++ value.literal
  | within column values negated =>
    column ++ (if negated then " NOT IN " else " IN ") ++ Param.list values
  | between column low high negated =>
    column ++ (if negated then " NOT BETWEEN " else " BETWEEN ") ++ low.literal ++ " AND " ++
      high.literal
  | isNull column negated => column ++ (if negated then " IS NOT NULL" else " IS NULL")
  | multi column operator values =>
    let list := Param.list (values.map .integer)
    match operator with
    | .within => column ++ " IN " ++ list
    | .notWithin => column ++ " NOT IN " ++ list
    | .any => "ANY(" ++ column ++ ") IN " ++ list
    | .all => "ALL(" ++ column ++ ") IN " ++ list
    | .other text => column ++ " " ++ text ++ " " ++ list

namespace Filter

/-- The match expression in place. -/
def renderedMatch (expression : String) : String := "MATCH(" ++ Param.quote expression ++ ")"

/-- A filter behind its keyword, with its values in place: the branches that can hold, unless one
of them asks for nothing. -/
def rendered (keyword : String) (terms : List MatchTerm) (clauses : List Clause) : String :=
  let branches := (kept (formula renderedMatch Condition.rendered terms clauses)).map
    (·.map Prod.snd)
  if branches = [] ∨ [] ∈ branches then "" else disjunctionText keyword branches

end Filter

namespace Query

/-- The selection of a query's rows, with its values in place. -/
def renderedSelect (q : Query) (table : String) : String :=
  "SELECT " ++ q.projection ++ " FROM " ++ table ++ Filter.rendered "WHERE" q.terms q.filter ++
    q.grouping ++ sorting "WITHIN GROUP ORDER BY" q.groupOrder ++
    Filter.rendered "HAVING" [] q.having ++ sorting "ORDER BY" q.order ++ q.window.sql ++
    q.optionList ++ String.join (q.facets.map Facet.sql)

/-- A write of rows, each with its cells in the order of the columns. -/
def renderedWrite (verb : WriteVerb) (table : String) (columns : List String)
    (rows : List (List (String × Param))) : String :=
  verb.keyword ++ " INTO " ++ table ++ " (" ++ ", ".intercalate columns ++ ") VALUES " ++
    ", ".intercalate (rows.map fun row => Param.list (row.map (·.2)))

/-- An update, with its values in place. -/
def renderedUpdate (q : Query) (assignments : List (String × Param)) (table : String) : String :=
  "UPDATE " ++ table ++ " SET " ++
    ", ".intercalate (assignments.map fun a => a.1 ++ " = " ++ a.2.literal) ++
    Filter.rendered "WHERE" q.terms q.filter

/-- A deletion, with its values in place. -/
def renderedDelete (q : Query) (table : String) : String :=
  "DELETE FROM " ++ table ++ Filter.rendered "WHERE" q.terms q.filter

end Query

/-! ## Compiled parts with their values written out -/

theorem Fragment.literal_tuple (values : List Param) :
    literal (tuple values) = Param.list values := by
  simp only [tuple, List.cons_append, literal_cons, literal_append, literal_joined, literal_nil,
    List.map_map, Param.list, Piece.literal, Function.comp_def, String.append_empty,
    String.append_assoc]

namespace Condition

/-- A condition that is no constant writes what it is rendered as. -/
theorem literal_fragment {c : Condition} (h : c.constant? = none) :
    c.fragment.literal = c.rendered := by
  cases c with
  | compare column operator value =>
    simp only [fragment, term, Filter.test?, Option.getD_some, Fragment.literal_cons,
      Fragment.literal_nil, Piece.literal, rendered, String.append_empty]
  | within column values negated =>
    cases values with
    | nil => cases h
    | cons value values =>
      rw [fragment_of_listTest rfl, Fragment.literal_cons, Fragment.literal_tuple, rendered,
        within_keyword]
      simp only [Piece.literal, String.append_assoc]
  | between column low high negated =>
    rw [rendered, between_keyword]
    simp only [fragment, term, Filter.test?, Option.getD_some, Fragment.literal_cons,
      Fragment.literal_nil, Piece.literal, String.append_assoc, String.append_empty]
  | isNull column negated =>
    rw [rendered, isNull_keyword]
    simp only [fragment, term, Filter.test?, Option.getD_some, Fragment.literal_cons,
      Fragment.literal_nil, Piece.literal, String.append_assoc, String.append_empty]
  | multi column operator values =>
    cases values with
    | nil => cases operator <;> cases h
    | cons value values =>
      rw [fragment_of_listTest rfl, Fragment.literal_cons, Fragment.literal_tuple, Piece.literal,
        multiSubject_append]
      cases operator <;> rfl

end Condition

namespace Filter

/-- The compiled formula with its values written out is the rendered one. -/
theorem formula_rendered (terms : List MatchTerm) (clauses : List Clause) :
    (formula matchFragment Condition.fragment terms clauses).map
        (·.map (Operand.map Fragment.literal)) =
      formula renderedMatch Condition.rendered terms clauses := by
  refine formula_map (fun expression => ?_) (fun c => Condition.literal_fragment) terms clauses
  simp [matchFragment, renderedMatch, Piece.literal, Param.literal, String.append_assoc]

/-- A compiled filter with its values written out is the rendered one. -/
theorem literal_fragment (keyword : String) (terms : List MatchTerm) (clauses : List Clause) :
    ((ofClauses terms clauses).fragment keyword).literal = rendered keyword terms clauses := by
  rw [ofClauses_eq, rendered, ← formula_rendered, kept_map]
  generalize kept (formula matchFragment Condition.fragment terms clauses) = left
  have texts : (left.map (·.map fun t => (t.1, t.2.literal))).map (·.map Prod.snd) =
      left.map (·.map fun t => t.2.literal) := by
    simp only [List.map_map, Function.comp_def]
  have trivial_branch : [] ∈ left.map (·.map fun t => t.2.literal) ↔ [] ∈ left := by
    simp [List.map_eq_nil_iff]
  simp only [texts, List.map_eq_nil_iff, trivial_branch]
  by_cases none_left : left = []
  · simp [none_left, fragment]
  · by_cases trivial_left : [] ∈ left
    · simp [none_left, trivial_left, fragment]
    · simp only [none_left, trivial_left, if_false, or_self, fragment, Fragment.literal_cons,
        Piece.literal, disjunction, Fragment.literal_joined, disjunctionText, List.map_map,
        Function.comp_def]

end Filter

namespace Query

variable (q : Query) (table : String)

theorem literal_rowFilter (keyword : String) :
    (q.rowFilter.fragment keyword).literal = Filter.rendered keyword q.terms q.filter :=
  Filter.literal_fragment keyword q.terms q.filter

theorem literal_groupFilter (keyword : String) :
    (q.groupFilter.fragment keyword).literal = Filter.rendered keyword [] q.having :=
  Filter.literal_fragment keyword [] q.having

theorem literal_select :
    Fragment.literal ([.text ("SELECT " ++ q.projection ++ " FROM " ++ table)] ++
        q.rowFilter.fragment "WHERE" ++ q.afterFilter) = q.renderedSelect table := by
  unfold renderedSelect
  simp only [afterFilter, Fragment.literal_append, Fragment.literal_cons, Fragment.literal_nil,
    Piece.literal, literal_rowFilter, literal_groupFilter, String.append_empty,
    String.append_assoc]

theorem literal_write (verb : WriteVerb) (columns : List String)
    (rows : List (List (String × Param))) :
    Fragment.literal (.text (verb.keyword ++ " INTO " ++ table ++ " (" ++
        ", ".intercalate columns ++ ") VALUES ") ::
          Fragment.joined ", " (rows.map fun row => Fragment.tuple (row.map (·.2)))) =
      renderedWrite verb table columns rows := by
  simp only [Fragment.literal_cons, Piece.literal, Fragment.literal_joined, List.map_map,
    Function.comp_def, Fragment.literal_tuple, renderedWrite]

theorem literal_update (assignments : List (String × Param)) :
    Fragment.literal (.text ("UPDATE " ++ table ++ " SET ") ::
        Fragment.joined ", " (assignments.map assignment) ++ q.rowFilter.fragment "WHERE") =
      q.renderedUpdate assignments table := by
  simp only [List.cons_append, Fragment.literal_append, Fragment.literal_cons,
    Fragment.literal_nil, Piece.literal, Fragment.literal_joined, List.map_map, Function.comp_def,
    assignment, literal_rowFilter, renderedUpdate, String.append_empty, String.append_assoc]

theorem literal_delete :
    Fragment.literal ([.text ("DELETE FROM " ++ table)] ++ q.rowFilter.fragment "WHERE") =
      q.renderedDelete table := by
  simp only [Fragment.literal_append, Fragment.literal_cons, Fragment.literal_nil, Piece.literal,
    literal_rowFilter, renderedDelete, String.append_empty]

end Query

end SearchQL
