import SearchQL.Query.Clause

/-!
# Query calls — building a query step by step

A caller builds a query by a sequence of calls. Each is data here, and
`QueryCall.apply` says what it does to the query: it adds to one clause of it or
replaces one. Only the multi-value filter can fail, since its arguments have to
be integers; a call that fails leaves no query behind.

Facets are built the same way, by calls of their own.
-/

namespace SearchQL

/-! ## Facets -/

/-- A call of a function, as the text of a column. -/
def functionText (name : String) (arguments : List String) : String :=
  Text.upperAscii name ++ "(" ++ ",".intercalate arguments ++ ")"

/-- One step of building a facet. -/
inductive FacetCall where
  | column (name : String)
  | columns (names : List String)
  | function (name : String) (arguments : List String)
  | groupedBy (column : String)
  | orderBy (column : String) (direction : Direction)
  | orderByFunction (name : String) (arguments : List String) (direction : Direction)
  | limit (n : UInt64)
  | offset (n : UInt64)

namespace FacetCall

/-- What a call does to a facet. A second order replaces the first. -/
def apply (f : Facet) : FacetCall → Facet
  | column name => { f with columns := f.columns ++ [name] }
  | columns names => { f with columns := f.columns ++ names }
  | function name arguments => { f with columns := f.columns ++ [functionText name arguments] }
  | groupedBy name => { f with groupedBy := f.groupedBy ++ [name] }
  | orderBy name direction => { f with order := some ⟨name, direction⟩ }
  | orderByFunction name arguments direction =>
    { f with order := some ⟨functionText name arguments, direction⟩ }
  | limit n => { f with window := { f.window with limit := some n } }
  | offset n => { f with window := { f.window with offset := some n } }

/-- The facet that calls build. -/
def build (calls : List FacetCall) : Facet := calls.foldl apply {}

end FacetCall

/-! ## Queries -/

/-- The greatest unsigned word. -/
def greatestUInt64 : Nat := UInt64.size - 1

/-- The offset of a page, counted from one; page zero is page one. An offset that no word holds
becomes the greatest word. -/
def pageOffset (page perPage : UInt64) : UInt64 :=
  UInt64.ofNat (min ((page.toNat - 1) * perPage.toNat) greatestUInt64)

/-- One step of building a query. -/
inductive QueryCall where
  | fromIndex (table : String)
  | select (columns : List String)
  | andWhere (column operator : String) (value : Param)
  | orWhere (column operator : String) (value : Param)
  | whereIn (column : String) (values : List Param)
  | whereNotIn (column : String) (values : List Param)
  | whereBetween (column : String) (low high : Param)
  | whereNull (column : String)
  | whereNotNull (column : String)
  | whereMulti (column operator : String) (values : List Value)
  | matching (target : MatchTarget) (text : String) (relaxed : Bool)
  | groupBy (column : String)
  | groupLimitedBy (column : String) (limit : UInt32)
  | withinGroupOrderBy (column : String) (direction : Direction)
  | having (column operator : String) (value : Param)
  | orderBy (column : String) (direction : Direction)
  | limit (n : UInt64)
  | offset (n : UInt64)
  | forPage (page perPage : UInt64)
  | option (name : String) (value : OptionValue)
  | facet (calls : List FacetCall)

namespace QueryCall

/-- Adds a condition to the filter of a query. -/
def addCondition (q : Query) (joiner : Joiner) (condition : Condition) : Query :=
  { q with filter := q.filter ++ [⟨joiner, condition⟩] }

/-- What a call does to a query. -/
def apply (q : Query) : QueryCall → Except Error Query
  | fromIndex table => .ok { q with index := some table }
  | select columns => .ok { q with columns := q.columns ++ columns }
  | andWhere column operator value => .ok (addCondition q .and (.compare column operator value))
  | orWhere column operator value => .ok (addCondition q .or (.compare column operator value))
  | whereIn column values => .ok (addCondition q .and (.within column values false))
  | whereNotIn column values => .ok (addCondition q .and (.within column values true))
  | whereBetween column low high => .ok (addCondition q .and (.between column low high false))
  | whereNull column => .ok (addCondition q .and (.isNull column false))
  | whereNotNull column => .ok (addCondition q .and (.isNull column true))
  | whereMulti column operator values =>
    (MultiValue.ofArguments values).map fun values =>
      addCondition q .and (.multi column (.ofText operator) values)
  | matching target text relaxed => .ok { q with terms := q.terms ++ [⟨target, text, relaxed⟩] }
  | groupBy column => .ok { q with groups := q.groups ++ [column] }
  | groupLimitedBy column n =>
    .ok { q with groups := q.groups ++ [column], groupLimit := some n }
  | withinGroupOrderBy column direction =>
    .ok { q with groupOrder := q.groupOrder ++ [⟨column, direction⟩] }
  | having column operator value =>
    .ok { q with having := q.having ++ [⟨.and, .compare column operator value⟩] }
  | orderBy column direction => .ok { q with order := q.order ++ [⟨column, direction⟩] }
  | limit n => .ok { q with window := { q.window with limit := some n } }
  | offset n => .ok { q with window := { q.window with offset := some n } }
  | forPage page perPage => .ok { q with window := ⟨some perPage, some (pageOffset page perPage)⟩ }
  | option name value => .ok { q with options := setOption name value q.options }
  | facet calls => .ok { q with facets := q.facets ++ [FacetCall.build calls] }

end QueryCall

/-- The query that a sequence of calls makes of one; the first call that fails ends it. -/
def Query.applyCalls (q : Query) (calls : List QueryCall) : Except Error Query :=
  calls.foldlM QueryCall.apply q

end SearchQL
