import SearchQL.Query.Filter

/-!
# Query statements — compiling a query

One query compiles to several statements: the selection of its rows, their
count, and the writes that go to its index. All of them put the same filter
behind `WHERE`. `Query.filterFragment` is that part, once.

The name of an index always has the table prefix of the connection before it.
-/

namespace SearchQL

/-- How many rows a window that names only its offset asks for. -/
def Window.unbounded : UInt64 := 1000

/-- A window as a part of a statement. -/
def Window.sql (w : Window) : String :=
  if w.limit.isNone && w.offset.isNone then ""
  else " LIMIT " ++ toString (w.offset.getD 0) ++ ", " ++ toString (w.limit.getD unbounded)

/-- The value of an option as text. -/
def OptionValue.sql : OptionValue → String
  | integer n => Number.decimal n.toInt
  | real x => x.plain
  | ident name => name
  | text s => Param.quote s
  | weights pairs =>
    "(" ++ ", ".intercalate (pairs.map fun (k, v) => k ++ "=" ++ Number.decimal v.toInt) ++ ")"

/-- A facet as a part of a statement; one without columns is left out. -/
def Facet.sql (f : Facet) : String :=
  if f.columns.isEmpty then ""
  else
    " FACET " ++ ", ".intercalate f.columns ++
      (if f.groupedBy.isEmpty then "" else " BY " ++ ", ".intercalate f.groupedBy) ++
      (match f.order with
        | some key => " ORDER BY " ++ key.sql
        | none => "") ++
      f.window.sql

namespace Query

/-- The name of an index behind the table prefix. -/
def tableName (tablePrefix table : String) : String := tablePrefix ++ table

/-- The index of a query, by its full name. -/
def target (tablePrefix : String) (q : Query) : Except Error String :=
  match q.index with
  | some table => .ok (tableName tablePrefix table)
  | none => .error (.request .noIndex)

/-! ## The parts of a selection -/

/-- What the match terms and conditions of a query come to. -/
def rowFilter (q : Query) : Filter := Filter.ofClauses q.terms q.filter

/-- What the conditions on the groups of a query come to. -/
def groupFilter (q : Query) : Filter := Filter.ofClauses [] q.having

/-- The columns of a query, or all of them. -/
def projection (q : Query) : String :=
  if q.columns.isEmpty then "*" else ", ".intercalate q.columns

/-- The grouping of a query. The limit per group is part of it. -/
def grouping (q : Query) : String :=
  if q.groups.isEmpty then ""
  else
    (match q.groupLimit with
      | some n => " GROUP " ++ toString n ++ " BY "
      | none => " GROUP BY ") ++ ", ".intercalate q.groups

/-- Sort keys behind their keyword, if there are any. -/
def sorting (keyword : String) (keys : List SortKey) : String :=
  if keys.isEmpty then "" else " " ++ keyword ++ " " ++ SortKey.list keys

/-- The options of a query. -/
def optionList (q : Query) : String :=
  if q.options.isEmpty then ""
  else " OPTION " ++ ", ".intercalate (q.options.map fun (name, v) => name ++ " = " ++ v.sql)

/-! ## Statements -/

/-- The selection of a query's rows. -/
def select (tablePrefix : String) (q : Query) : Except Error Statement := do
  let table ← q.target tablePrefix
  return {
    fragment :=
      .text ("SELECT " ++ q.projection ++ " FROM " ++ table) ::
        q.rowFilter.fragment "WHERE" ++
        [.text q.grouping, .text (sorting "WITHIN GROUP ORDER BY" q.groupOrder)] ++
        q.groupFilter.fragment "HAVING" ++
        [.text (sorting "ORDER BY" q.order), .text q.window.sql, .text q.optionList,
          .text (String.join (q.facets.map Facet.sql))]
    matchesNothing := q.rowFilter.isNothing || q.groupFilter.isNothing }

/-- The query whose only row holds the number of a query's rows. -/
def counting (q : Query) : Query :=
  { q with columns := ["COUNT(*) AS aggregate"], order := [], window := {}, facets := [] }

/-- The count of a query's rows. -/
def count (tablePrefix : String) (q : Query) : Except Error Statement :=
  q.counting.select tablePrefix

/-- The values of a row under the given columns, if it has as many columns and all of these. -/
def align? (columns : List String) (row : List (String × Param)) : Option (List Param) :=
  if row.length = columns.length then
    columns.mapM fun column => (row.find? (·.1 = column)).map (·.2)
  else none

/-- The rows that follow, each under the given columns; the number is that of the first one. -/
def alignFrom (verb : WriteVerb) (columns : List String) (number : Nat) :
    List (List (String × Param)) → Except Error (List (List Param))
  | [] => .ok []
  | row :: rest =>
    match align? columns row with
    | none => .error (.request (.unalignedRow verb number))
    | some values => (alignFrom verb columns (number + 1) rest).map (values :: ·)

/-- A write of whole rows. The first row says which columns are written. -/
def write (tablePrefix : String) (verb : WriteVerb) (q : Query)
    (rows : List (List (String × Param))) : Except Error Statement := do
  let table ← q.target tablePrefix
  match rows with
  | [] => .error (.request (.noRows verb))
  | first :: _ =>
    let columns := first.map (·.1)
    let tuples ← alignFrom verb columns 0 rows
    return {
      fragment :=
        .text (verb.keyword ++ " INTO " ++ table ++ " (" ++ ", ".intercalate columns ++
          ") VALUES ") ::
          Fragment.joined ", " (tuples.map Fragment.tuple) }

/-- One assignment of an update. -/
def assignment (a : String × Param) : Fragment := [.text (a.1 ++ " = "), .value a.2]

/-- An update of the rows that a query selects. -/
def update (tablePrefix : String) (q : Query) (assignments : List (String × Param)) :
    Except Error Statement := do
  if assignments.isEmpty then throw (.request .noAssignments)
  let table ← q.target tablePrefix
  return {
    fragment :=
      .text ("UPDATE " ++ table ++ " SET ") ::
        Fragment.joined ", " (assignments.map assignment) ++ q.rowFilter.fragment "WHERE"
    matchesNothing := q.rowFilter.isNothing }

/-- The deletion of the rows that a query selects. -/
def delete (tablePrefix : String) (q : Query) : Except Error Statement := do
  let table ← q.target tablePrefix
  return {
    fragment := .text ("DELETE FROM " ++ table) :: q.rowFilter.fragment "WHERE"
    matchesNothing := q.rowFilter.isNothing }

/-- The removal of all rows of a query's index, whatever its filter. -/
def truncate (tablePrefix : String) (q : Query) : Except Error Statement := do
  let table ← q.target tablePrefix
  return { fragment := [.text ("TRUNCATE RTINDEX " ++ table)] }

end Query

end SearchQL
