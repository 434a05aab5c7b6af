import SearchQL.Query.Clause
import SearchQL.Statement

/-!
# Filters — the meaning of a clause list, before its text

A list of clauses reads as the query language reads it: `OR` separates branches,
each of which joins its terms by `AND`. The first clause opens no branch,
whatever its joiner says, and the match expression is a term of the first branch.

Two kinds of term have no text. A list test against no values holds of no row; a
negated one holds of every row. So a clause list comes to one of three things
(`Filter`):

- `nothing`: every branch has a term that never holds. No text can say this, and
  the statement need not be sent;
- `everything`: some branch has no term left. The filter is true of every row,
  and no text is written;
- `anyOf`: the branches that are left, each with at least one term.

Branches with a term that never holds are dropped first, so `everything` is
decided among the branches that can hold.
-/

namespace SearchQL

/-- What a condition contributes to its branch. -/
inductive Term where
  /-- Holds of every row. -/
  | always
  /-- Holds of no row. -/
  | never
  /-- Is left to the daemon. -/
  | test (fragment : Fragment)
deriving DecidableEq

namespace Condition

/-- A test of a column against a list of values. -/
def listTest (subject : String) (values : List Param) : Term :=
  .test (.text (subject ++ " ") :: Fragment.tuple values)

/-- The word before a negated keyword. -/
def negation (negated : Bool) : String := if negated then "NOT " else ""

/-- What stands before the list of a multi-value test. -/
def multiSubject (column : String) : MultiOperator → String
  | .within => column ++ " IN"
  | .notWithin => column ++ " NOT IN"
  | .any => "ANY(" ++ column ++ ") IN"
  | .all => "ALL(" ++ column ++ ") IN"
  | .other operator => column ++ " " ++ operator

/-- What a condition contributes to its branch. -/
def term : Condition → Term
  | compare column operator value => .test [.text (column ++ " " ++ operator ++ " "), .value value]
  | within column values negated =>
    if values.isEmpty then (if negated then .always else .never)
    else listTest (column ++ " " ++ negation negated ++ "IN") values
  | between column low high negated =>
    .test [.text (column ++ " " ++ negation negated ++ "BETWEEN "), .value low, .text " AND ",
      .value high]
  | isNull column negated => .test [.text (column ++ " IS " ++ negation negated ++ "NULL")]
  | multi column operator values =>
    if values.isEmpty then (if operator.isNegated then .always else .never)
    else listTest (multiSubject column operator) (values.map .integer)

end Condition

/-- What a clause list comes to. -/
inductive Filter where
  | everything
  | nothing
  | anyOf (branches : List (List Fragment))
deriving DecidableEq

namespace Filter

/-- The terms of the match expression: one, or none. -/
def matchTerms (terms : List MatchTerm) : List Term :=
  match MatchTerm.expression? terms with
  | some expression =>
    [.test [.text "MATCH(", .value (.text expression), .text ")"]]
  | none => []

/-- The branches of the clauses that follow; the first argument is the branch that is open. -/
def branchesFrom (opened : List Term) : List Clause → List (List Term)
  | [] => [opened]
  | clause :: rest =>
    match clause.joiner with
    | .and => branchesFrom (opened ++ [clause.condition.term]) rest
    | .or => opened :: branchesFrom [clause.condition.term] rest

/-- The branches of a clause list behind the terms of a match expression. -/
def branches (opened : List Term) : List Clause → List (List Term)
  | [] => [opened]
  | clause :: rest => branchesFrom (opened ++ [clause.condition.term]) rest

/-- The text that a term leaves to the daemon. -/
def test? : Term → Option Fragment
  | .test fragment => some fragment
  | _ => none

/-- What a list of branches comes to. -/
def ofBranches (branches : List (List Term)) : Filter :=
  let live := (branches.filter (.never ∉ ·)).map fun branch => branch.filterMap test?
  if live.isEmpty then nothing
  else if live.any List.isEmpty then everything
  else anyOf live

/-- What the terms of a match expression and a clause list come to. -/
def ofClauses (terms : List MatchTerm) (clauses : List Clause) : Filter :=
  ofBranches (branches (matchTerms terms) clauses)

/-- Whether a filter holds of no row. -/
def isNothing : Filter → Bool
  | nothing => true
  | _ => false

/-- The text of the branches of a filter. -/
def disjunction (branches : List (List Fragment)) : Fragment :=
  Fragment.joined " OR " (branches.map (Fragment.joined " AND "))

/-- A filter as a part of a statement, behind its keyword. -/
def fragment (keyword : String) : Filter → Fragment
  | anyOf branches => .text (" " ++ keyword ++ " ") :: disjunction branches
  | _ => []

end Filter

end SearchQL
