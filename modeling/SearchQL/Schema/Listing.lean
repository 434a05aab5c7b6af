import SearchQL.Column.Type

/-!
# Listings — what the daemon says about its indexes

Three statements ask the daemon about itself: `DESC` lists the columns of an
index, `SHOW TABLES` the indexes, and `SHOW TABLES LIKE` the ones that match a
pattern. Their rows are plain rows; this module reads them.

A row without the expected text is passed over. The name of an index stands under
one of three columns, depending on the daemon.
-/

namespace SearchQL.Listing

/-! ## The statements -/

/-- Lists the columns of an index, given by its full name. -/
def describe (table : String) : String := "DESC " ++ table

/-- Lists the indexes. -/
def showTables : String := "SHOW TABLES"

/-- Lists the indexes whose names match the parameter. -/
def showTablesLike : String := "SHOW TABLES LIKE ?"

/-! ## Their rows -/

/-- The text under a column of a row. -/
def text? (column : String) (row : Row) : Option String := (Fields.get? column row).bind Value.text?

/-- The names of the columns, in the order of the listing. -/
def columnNames (rows : List Row) : List String := rows.filterMap (text? "Field")

/-- The type of a column: that of the first row with its name, if that row has one. -/
def columnType? (rows : List Row) (column : String) : Option ColumnType :=
  (rows.find? fun row => text? "Field" row == some column).bind fun row =>
    (text? "Type" row).map .ofName

/-- The columns that the name of an index may stand under. -/
def tableNameColumns : List String := ["Index", "Table", "Name"]

/-- The name of the index of a row. -/
def tableName? (row : Row) : Option String := tableNameColumns.findSome? (text? · row)

/-- The names of the indexes. -/
def tableNames (rows : List Row) : List String := rows.filterMap tableName?

/-- Whether an index is among the rows by exactly its name. A pattern can match more than that. -/
def hasTable (rows : List Row) (table : String) : Bool := (tableNames rows).contains table

/-- Whether a column is in the listing, the case of ASCII letters aside. -/
def hasColumn (rows : List Row) (column : String) : Bool :=
  (columnNames rows).any (Text.sameIgnoringCase column ·)

/-- Whether every column is in the listing. -/
def hasColumns (rows : List Row) (columns : List String) : Bool := columns.all (hasColumn rows)

end SearchQL.Listing
