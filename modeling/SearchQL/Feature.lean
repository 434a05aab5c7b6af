/-!
# Features the search daemon lacks

The daemon keeps indexes and not relational tables. A caller who knows relational
databases can ask for things it has no statement for: creating a table, a
foreign key, a date column, a transaction. Each is a feature with a stable name,
which labels what was refused, and a description, which completes the sentence
the caller reads.
-/

namespace SearchQL

/-- A relational feature that the search daemon has no equivalent for. -/
inductive Feature where
  | createTable
  | dropTable
  | dropAllTables
  | dropAllViews
  | dropAllTypes
  | views
  | renameTable
  | foreignKeyConstraints
  | customTypes
  | primaryKey
  | uniqueIndex
  | plainIndex
  | fullTextIndex
  | spatialIndex
  | foreignKey
  | renameIndex
  | renameColumn
  | columnModification
  | autoIncrement
  | enumColumn
  | dateColumn
  | timeColumn
  | yearColumn
  | binaryColumn
  | uuidColumn
  | ipAddressColumn
  | macAddressColumn
  | geometryColumn
  | polymorphicColumn
  | rememberToken
  | computedColumn
  | transactions
deriving DecidableEq, Repr

namespace Feature

/-- The stable name of a feature. -/
def name : Feature → String
  | createTable => "create_table"
  | dropTable => "drop_table"
  | dropAllTables => "drop_all_tables"
  | dropAllViews => "drop_all_views"
  | dropAllTypes => "drop_all_types"
  | views => "views"
  | renameTable => "rename_table"
  | foreignKeyConstraints => "foreign_key_constraints"
  | customTypes => "doctrine_types"
  | primaryKey => "primary_key"
  | uniqueIndex => "unique_index"
  | plainIndex => "index"
  | fullTextIndex => "fulltext_index"
  | spatialIndex => "spatial_index"
  | foreignKey => "foreign_key"
  | renameIndex => "rename_index"
  | renameColumn => "rename_column"
  | columnModification => "column_modification"
  | autoIncrement => "auto_increment"
  | enumColumn => "enum_column"
  | dateColumn => "date_column"
  | timeColumn => "time_column"
  | yearColumn => "year_column"
  | binaryColumn => "binary_column"
  | uuidColumn => "uuid_column"
  | ipAddressColumn => "ip_address_column"
  | macAddressColumn => "mac_address_column"
  | geometryColumn => "geometry_column"
  | polymorphicColumn => "morphs"
  | rememberToken => "remember_token"
  | computedColumn => "computed_column"
  | transactions => "transactions"

/-- What a feature is, as the end of a sentence about it. -/
def description : Feature → String
  | createTable => "create tables"
  | dropTable => "dropping tables"
  | dropAllTables => "dropping all tables"
  | dropAllViews => "dropping all views"
  | dropAllTypes => "dropping all types"
  | views => "views"
  | renameTable => "rename tables"
  | foreignKeyConstraints => "toggling foreign key constraints"
  | customTypes => "doctrine type registration"
  | primaryKey => "primary keys"
  | uniqueIndex => "unique indexes"
  | plainIndex => "indexes"
  | fullTextIndex => "fulltext indexes"
  | spatialIndex => "spatial indexes"
  | foreignKey => "foreign keys"
  | renameIndex => "renaming indexes"
  | renameColumn => "renaming columns"
  | columnModification => "modifying existing columns"
  | autoIncrement => "auto-increment columns"
  | enumColumn => "enum columns"
  | dateColumn => "date columns"
  | timeColumn => "time columns"
  | yearColumn => "year columns"
  | binaryColumn => "binary columns"
  | uuidColumn => "uuid columns"
  | ipAddressColumn => "ip address columns"
  | macAddressColumn => "mac address columns"
  | geometryColumn => "geometry columns"
  | polymorphicColumn => "polymorphic relation columns"
  | rememberToken => "remember token columns"
  | computedColumn => "computed columns"
  | transactions => "transactions"

/-- Every feature. -/
def all : List Feature :=
  [createTable, dropTable, dropAllTables, dropAllViews, dropAllTypes, views, renameTable,
   foreignKeyConstraints, customTypes, primaryKey, uniqueIndex, plainIndex, fullTextIndex,
   spatialIndex, foreignKey, renameIndex, renameColumn, columnModification, autoIncrement,
   enumColumn, dateColumn, timeColumn, yearColumn, binaryColumn, uuidColumn, ipAddressColumn,
   macAddressColumn, geometryColumn, polymorphicColumn, rememberToken, computedColumn,
   transactions]

end Feature

end SearchQL
