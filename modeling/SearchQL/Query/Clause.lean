import SearchQL.Match.Term
import SearchQL.Param

/-!
# Clauses — the parts of a query

A query is collected clause by clause and compiled once. This module holds the
clauses as data; how they are added is `SearchQL.Query.Call`, what they compile
to is `SearchQL.Query.Filter` and `SearchQL.Query.Statement`.
-/

namespace SearchQL

/-! ## Order -/

/-- The direction of a sort. -/
inductive Direction where
  | ascending
  | descending
deriving DecidableEq, Repr

/-- The keyword of a direction. -/
def Direction.keyword : Direction → String
  | ascending => "ASC"
  | descending => "DESC"

/-- A sort by one column or expression. -/
structure SortKey where
  column : String
  direction : Direction
deriving DecidableEq, Repr

/-- A sort key as text. -/
def SortKey.sql (key : SortKey) : String := key.column ++ " " ++ key.direction.keyword

/-- Several sort keys as text. -/
def SortKey.list (keys : List SortKey) : String := ", ".intercalate (keys.map sql)

/-! ## Conditions -/

/-- How a multi-value attribute is compared with a list. -/
inductive MultiOperator where
  /-- Any value of the attribute is in the list. -/
  | within
  | notWithin
  | any
  | all
  /-- Passed on as it is; the daemon decides whether it is one. -/
  | other (operator : String)
deriving DecidableEq, Repr

namespace MultiOperator

/-- The operator that a text names. -/
def ofText (text : String) : MultiOperator :=
  match Text.lowerAscii (Text.trim text) with
  | "=" | "in" => within
  | "!=" | "<>" | "not in" => notWithin
  | "any" => any
  | "all" => all
  | _ => other (Text.trim text)

/-- Whether an operator holds of every row when the list is empty. -/
def isNegated : MultiOperator → Bool
  | notWithin => true
  | _ => false

end MultiOperator

/-- A test on the columns of a row. -/
inductive Condition where
  | compare (column operator : String) (value : Param)
  | within (column : String) (values : List Param) (negated : Bool)
  | between (column : String) (low high : Param) (negated : Bool)
  | isNull (column : String) (negated : Bool)
  | multi (column : String) (operator : MultiOperator) (values : List Int64)
deriving DecidableEq

/-- How a condition joins the one before it. -/
inductive Joiner where
  | and
  | or
deriving DecidableEq, Repr

/-- A condition of a filter, with how it joins the one before it. -/
structure Clause where
  joiner : Joiner
  condition : Condition
deriving DecidableEq

/-! ## Options and facets -/

/-- The value of a query option. -/
inductive OptionValue where
  | integer (n : Int64)
  | real (x : Binary64)
  | ident (name : String)
  | text (s : String)
  | weights (pairs : List (String × Int64))
deriving DecidableEq

/-- A window of a result: how many rows, from which on. -/
structure Window where
  limit : Option UInt64 := none
  offset : Option UInt64 := none
deriving DecidableEq

/-- A facet: a further grouping of the same result. -/
structure Facet where
  columns : List String := []
  groupedBy : List String := []
  order : Option SortKey := none
  window : Window := {}
deriving DecidableEq

/-! ## Queries -/

/-- Everything that a query can hold. Writes use the index and the filter of a query only. -/
structure Query where
  index : Option String := none
  columns : List String := []
  terms : List MatchTerm := []
  filter : List Clause := []
  groups : List String := []
  groupLimit : Option UInt32 := none
  groupOrder : List SortKey := []
  having : List Clause := []
  order : List SortKey := []
  window : Window := {}
  options : List (String × OptionValue) := []
  facets : List Facet := []
deriving DecidableEq

/-- Sets an option. A name keeps the place of its first value and the value of its last. -/
def setOption (name : String) (value : OptionValue) :
    List (String × OptionValue) → List (String × OptionValue)
  | [] => [(name, value)]
  | (n, v) :: rest =>
    if n = name then (n, value) :: rest else (n, v) :: setOption name value rest

end SearchQL
