import SearchQL.Column.Definition
import SearchQL.Column.Method

/-!
# Change sets — a schema change as a list of declarations

A change to an index is declared first and sent later. The declarations are
calls; each is data here, and `ChangeCall.apply` says how it ends and what it
leaves of the change set. A call that asks for what the daemon lacks fails. What
it wants to add is resolved before anything is added.

`ChangeSet.statements` compiles the whole: one statement per added column, in the
order of declaration, then one per dropped column. Commands that were added by
name are skipped, with two exceptions, which name features that the daemon lacks.
A column marked as a change fails the whole set before anything else is looked
at.
-/

namespace SearchQL

/-- A step of a schema change. -/
inductive Command where
  | add (column : ColumnDefinition)
  | drop (column : String)
  /-- A command added by name. It compiles to nothing. -/
  | named (name : String) (columns : List String)

/-- The name of a command. -/
def Command.name : Command → String
  | add _ => "add"
  | drop _ => "dropColumn"
  | named name _ => name

/-- A schema change that is being declared. -/
structure ChangeSet where
  table : String
  columns : List ColumnDefinition := []
  commands : List Command := []

/-- A change that the daemon has no statement for, whatever its arguments. -/
inductive RefusedChange where
  | computed
  | primary
  | unique
  | index
  | fulltext
  | spatialIndex
  | foreign
  | dropPrimary
  | dropUnique
  | dropIndex
  | dropFulltext
  | dropSpatialIndex
  | dropForeign
  | dropMorphs
  | renameIndex
  | renameColumn
  | rename
  | drop
  | dropIfExists
deriving DecidableEq, Repr

namespace RefusedChange

/-- Every refused change. -/
def all : List RefusedChange :=
  [computed, primary, unique, index, fulltext, spatialIndex, foreign, dropPrimary, dropUnique,
   dropIndex, dropFulltext, dropSpatialIndex, dropForeign, dropMorphs, renameIndex, renameColumn,
   rename, drop, dropIfExists]

/-- The name of the method that asks for a change. -/
def name : RefusedChange → String
  | computed => "computed"
  | primary => "primary"
  | unique => "unique"
  | index => "index"
  | fulltext => "fulltext"
  | spatialIndex => "spatialIndex"
  | foreign => "foreign"
  | dropPrimary => "dropPrimary"
  | dropUnique => "dropUnique"
  | dropIndex => "dropIndex"
  | dropFulltext => "dropFulltext"
  | dropSpatialIndex => "dropSpatialIndex"
  | dropForeign => "dropForeign"
  | dropMorphs => "dropMorphs"
  | renameIndex => "renameIndex"
  | renameColumn => "renameColumn"
  | rename => "rename"
  | drop => "drop"
  | dropIfExists => "dropIfExists"

/-- The feature that a change needs. -/
def feature : RefusedChange → Feature
  | computed => .computedColumn
  | primary | dropPrimary => .primaryKey
  | unique | dropUnique => .uniqueIndex
  | index | dropIndex => .plainIndex
  | fulltext | dropFulltext => .fullTextIndex
  | spatialIndex | dropSpatialIndex => .spatialIndex
  | foreign | dropForeign => .foreignKey
  | dropMorphs => .polymorphicColumn
  | renameIndex => .renameIndex
  | renameColumn => .renameColumn
  | rename => .renameTable
  | drop | dropIfExists => .dropTable

end RefusedChange

/-- One declaration of a schema change. -/
inductive ChangeCall where
  | declare (method : ColumnMethod) (column : String) (attributes : List ColumnAttribute)
  | declareNamed (method column : String) (attributes : List ColumnAttribute)
  | declareKind (kind : ColumnKind) (column : String) (attributes : List ColumnAttribute)
  | timestamps
  | softDeletes (column : Option String) (attributes : List ColumnAttribute)
  | removeColumn (column : String)
  | dropColumns (columns : List String)
  | dropTimestamps
  | dropSoftDeletes (column : Option String)
  | addCommand (name : String) (columns : List String)
  | refused (change : RefusedChange)

namespace ChangeSet

/-- The column that marks deleted rows unless another is named. -/
def softDeleteColumn : String := "__soft_deleted"

/-- The columns that hold the times of creation and of the last change. -/
def timestampColumns : List String := ["created_at", "updated_at"]

/-- Adds columns to a change set. -/
def addColumns (s : ChangeSet) (columns : List ColumnDefinition) : ChangeSet :=
  { s with columns := s.columns ++ columns }

/-- Adds commands to a change set. -/
def addCommands (s : ChangeSet) (commands : List Command) : ChangeSet :=
  { s with commands := s.commands ++ commands }

/-- Adds a column of a kind that has been looked for, unless there is none. -/
def declareColumn (s : ChangeSet) (kind : Except Error ColumnKind) (column : String)
    (attributes : List ColumnAttribute) : Except Error Unit × ChangeSet :=
  match kind with
  | .ok kind => (.ok (), s.addColumns [.declare column kind attributes])
  | .error e => (.error e, s)

end ChangeSet

namespace ChangeCall

open ChangeSet in
/-- How a declaration ends, and the change set that it leaves behind. -/
def apply (s : ChangeSet) : ChangeCall → Except Error Unit × ChangeSet
  | declare method column attributes =>
    s.declareColumn (method.kind.mapError .unsupported) column attributes
  | declareNamed method column attributes =>
    s.declareColumn (ColumnKind.ofName method) column attributes
  | declareKind kind column attributes => s.declareColumn (.ok kind) column attributes
  | timestamps => (.ok (), s.addColumns (timestampColumns.map fun c => .declare c .timestamp []))
  | softDeletes column attributes =>
    s.declareColumn (.ok .boolean) (column.getD softDeleteColumn) attributes
  | removeColumn column => (.ok (), { s with columns := s.columns.filter (·.name ≠ column) })
  | dropColumns columns => (.ok (), s.addCommands (columns.map .drop))
  | dropTimestamps => (.ok (), s.addCommands (timestampColumns.map .drop))
  | dropSoftDeletes column => (.ok (), s.addCommands [.drop (column.getD softDeleteColumn)])
  | addCommand name columns => (.ok (), s.addCommands [.named name columns])
  | refused change => (.error (.unsupported change.feature), s)

end ChangeCall

namespace ChangeSet

/-! ## Compiling -/

/-- The columns that a change set adds. -/
def added (s : ChangeSet) : List ColumnDefinition := s.columns.filter (!·.change)

/-- The columns that a change set would alter. -/
def changed (s : ChangeSet) : List ColumnDefinition := s.columns.filter (·.change)

/-- The statement of a command, if it has one. -/
def commandSql? (tablePrefix : String) (s : ChangeSet) : Command → Option String
  | .add column =>
    some ("ALTER TABLE " ++ tablePrefix ++ s.table ++ " ADD COLUMN " ++ column.name ++ " " ++
      column.kind.wire.keyword)
  | .drop column => some ("ALTER TABLE " ++ tablePrefix ++ s.table ++ " DROP COLUMN " ++ column)
  | .named _ _ => none

/-- The feature that a command lacks by its name. -/
def refusedCommand? (command : Command) : Option Feature :=
  match command.name with
  | "dropForeign" => some .foreignKey
  | "renameColumn" => some .renameColumn
  | _ => none

/-- Checks the commands of a change set; the first refused one is reported. -/
def checkCommands (s : ChangeSet) : Except Error Unit :=
  match s.commands.findSome? refusedCommand? with
  | some feature => .error (.unsupported feature)
  | none => .ok ()

/-- The statements of a change set. -/
def statements (tablePrefix : String) (s : ChangeSet) : Except Error (List String) := do
  if !s.changed.isEmpty then throw (.unsupported .columnModification)
  s.checkCommands
  return (s.added.map Command.add ++ s.commands).filterMap (s.commandSql? tablePrefix)

end ChangeSet

end SearchQL
