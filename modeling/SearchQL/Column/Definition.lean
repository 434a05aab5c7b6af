import SearchQL.Column.Kind

/-!
# Column definitions — a declared column and its attributes

A column of a change set has a name and a kind. The attributes that relational
schemas know, such as a default or a comment, can be set and looked up but take no
part in the statement; only `change`, which would alter an existing column, has an
effect, since the daemon cannot do that.
-/

namespace SearchQL

/-- A column declared in a change set. -/
structure ColumnDefinition where
  name : String
  kind : ColumnKind
  /-- Whether the column stands for a change to an existing one. -/
  change : Bool := false
  nullable : Bool := false
  unsigned : Bool := false
  default : Option Value := none
  comment : Option String := none
  after : Option String := none
  first : Bool := false
  charset : Option String := none
  collation : Option String := none

/-- An attribute that is set on a declared column. -/
inductive ColumnAttribute where
  | change
  | nullable
  | unsigned
  | default (value : Value)
  | comment (text : String)
  | after (column : String)
  | first
  | charset (name : String)
  | collation (name : String)

/-- Sets an attribute of a column. -/
def ColumnDefinition.set (c : ColumnDefinition) : ColumnAttribute → ColumnDefinition
  | .change => { c with change := true }
  | .nullable => { c with nullable := true }
  | .unsigned => { c with unsigned := true }
  | .default value => { c with default := some value }
  | .comment text => { c with comment := some text }
  | .after column => { c with after := some column }
  | .first => { c with first := true }
  | .charset name => { c with charset := some name }
  | .collation name => { c with collation := some name }

/-- The column that a name, a kind and attributes declare. -/
def ColumnDefinition.declare (name : String) (kind : ColumnKind)
    (attributes : List ColumnAttribute) : ColumnDefinition :=
  attributes.foldl ColumnDefinition.set { name, kind }

end SearchQL
