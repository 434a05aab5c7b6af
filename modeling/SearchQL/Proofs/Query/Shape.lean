import SearchQL.Query.Statement

/-!
# The shape of the statements of a query

Each statement of a query is a head that ends with the name of the index, the
filter of the query, and what follows the filter. A statement is refused only
for what is missing: the index, or the assignments of an update. These equations
say both at once, so that later proofs open no compiler.
-/

namespace SearchQL.Query

/-- The parts of a selection that follow its filter. -/
def afterFilter (q : Query) : Fragment :=
  [.text q.grouping, .text (sorting "WITHIN GROUP ORDER BY" q.groupOrder)] ++
    q.groupFilter.fragment "HAVING" ++
    [.text (sorting "ORDER BY" q.order), .text q.window.sql, .text q.optionList,
      .text (String.join (q.facets.map Facet.sql))]

variable (tablePrefix : String) (q : Query)

theorem select_eq_map :
    q.select tablePrefix = (q.target tablePrefix).map fun table =>
      { fragment :=
          [.text ("SELECT " ++ q.projection ++ " FROM " ++ table)] ++
            q.rowFilter.fragment "WHERE" ++ q.afterFilter
        matchesNothing := q.rowFilter.isNothing || q.groupFilter.isNothing } := by
  unfold select
  cases q.target tablePrefix with
  | error e => rfl
  | ok table => simp [Except.map, bind, Except.bind, pure, Except.pure, afterFilter]

theorem count_eq_map :
    q.count tablePrefix = (q.target tablePrefix).map fun table =>
      { fragment :=
          [.text ("SELECT COUNT(*) AS aggregate FROM " ++ table)] ++
            q.rowFilter.fragment "WHERE" ++ q.counting.afterFilter
        matchesNothing := q.rowFilter.isNothing || q.groupFilter.isNothing } :=
  select_eq_map tablePrefix q.counting

theorem update_eq_map (assignments : List (String × Param)) :
    q.update tablePrefix assignments =
      if assignments.isEmpty then .error (.request .noAssignments)
      else (q.target tablePrefix).map fun table =>
        { fragment :=
            .text ("UPDATE " ++ table ++ " SET ") ::
              Fragment.joined ", " (assignments.map assignment) ++ q.rowFilter.fragment "WHERE"
          matchesNothing := q.rowFilter.isNothing } := by
  unfold update
  cases assignments with
  | nil => rfl
  | cons a rest => cases q.target tablePrefix <;> rfl

theorem delete_eq_map :
    q.delete tablePrefix = (q.target tablePrefix).map fun table =>
      { fragment := [.text ("DELETE FROM " ++ table)] ++ q.rowFilter.fragment "WHERE"
        matchesNothing := q.rowFilter.isNothing } := by
  unfold delete
  cases q.target tablePrefix <;> rfl

theorem truncate_eq_map :
    q.truncate tablePrefix = (q.target tablePrefix).map fun table =>
      { fragment := [.text ("TRUNCATE RTINDEX " ++ table)] } := by
  unfold truncate
  cases q.target tablePrefix <;> rfl

end SearchQL.Query
