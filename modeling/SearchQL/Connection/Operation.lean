import SearchQL.Connection.Plan
import SearchQL.Entity.Basic
import SearchQL.Query.Call
import SearchQL.Query.Statement
import SearchQL.Schema.Listing
import SearchQL.Schema.Script

/-!
# Operations — everything a connection can be asked

Three groups of operations share a connection. Queries are built by calls and end in
a terminal, which says what is wanted of them. Schema operations change an index,
ask the daemon about its indexes, or ask for something that only relational
databases do. Raw statements are sent as they are.

`Operation.plan` says what each comes to. It is given the table prefix and nothing
else about the connection, so a plan cannot depend on the daemon.
-/

namespace SearchQL

/-! ## Queries -/

/-- What is wanted of a query. -/
inductive Terminal where
  | get
  | first
  | find (id : Int64)
  | count
  | write (verb : WriteVerb) (rows : List Row)
  | update (values : Row)
  | delete
  | truncate

namespace Query

/-- A compiled statement as a request. -/
def request (kind : StatementKind) (s : Statement) : Request := ⟨kind, s.sql, s.params⟩

/-- The plan of a query for rows. One that matches nothing is read as having no rows. -/
def fetchPlan (kind : StatementKind) (read : List Row → Except Error Answer)
    (compiled : Except Error Statement) : Plan :=
  .after compiled fun s =>
    if s.matchesNothing then .settled [.shortCircuit] (read []) else .fetch (request kind s) read

/-- The plan of a write through a filter. One that matches nothing affects no rows. -/
def filteredPlan (kind : StatementKind) (compiled : Except Error Statement) : Plan :=
  .after compiled fun s =>
    if s.matchesNothing then .settled [.shortCircuit] (.ok (.number 0))
    else .execute (request kind s) .number

/-- All the rows. -/
def readRows (rows : List Row) : Except Error Answer := .ok (.rows rows)

/-- The first row, if there is one. -/
def readFirst (rows : List Row) : Except Error Answer := .ok (.row rows.head?)

/-- The number in the first row of a count. An aggregate of another shape counts as zero; a text
has to be a number. -/
def readCount (rows : List Row) : Except Error Answer :=
  match rows.head?.bind (Fields.get? "aggregate") with
  | some (.number n) => .ok (.number (n.uint64?.getD 0))
  | some (.text s) =>
    match Number.readUInt64? s with
    | some n => .ok (.number n)
    | none => .error (.decode s .notCount)
  | _ => .ok (.number 0)

/-- The query of the first row. -/
def limitedToFirst (q : Query) : Query := { q with window := { q.window with limit := some 1 } }

/-- The query for the row whose column holds an id. -/
def withId (q : Query) (column : String) (id : Int64) : Query :=
  QueryCall.addCondition q .and (.compare column "=" (.integer id))

/-- The kind of statement that a write is. -/
def writeKind : WriteVerb → StatementKind
  | .insert => .insert
  | .replace => .replace

/-- What a terminal of a query comes to. -/
def terminalPlan (tablePrefix : String) (q : Query) : Terminal → Plan
  | .get => fetchPlan .select readRows (q.select tablePrefix)
  | .first => fetchPlan .select readFirst (q.limitedToFirst.select tablePrefix)
  | .find id =>
    fetchPlan .select readFirst ((q.withId "id" id).limitedToFirst.select tablePrefix)
  | .count => fetchPlan .count readCount (q.count tablePrefix)
  | .write verb rows =>
    .after (rows.mapM Param.ofRow) fun rows =>
      .after (q.write tablePrefix verb rows) fun s =>
        .execute (request (writeKind verb) s) .number
  | .update values =>
    .after (Param.ofRow values) fun assignments =>
      filteredPlan .update (q.update tablePrefix assignments)
  | .delete => filteredPlan .delete (q.delete tablePrefix)
  | .truncate =>
    .after (q.truncate tablePrefix) fun s => .execute (request .truncate s) fun _ => .done

end Query

/-! ## Schema operations -/

/-- An operation that the daemon has no statement for, whatever its arguments. -/
inductive RelationalOperation where
  | create
  | drop
  | dropIfExists
  | dropAllTables
  | dropAllViews
  | dropAllTypes
  | getAllViews
  | rename
  | enableForeignKeyConstraints
  | disableForeignKeyConstraints
  | registerCustomType
  | beginTransaction
  | commit
  | rollback
deriving DecidableEq, Repr

/-- The feature that a relational operation needs. -/
def RelationalOperation.feature : RelationalOperation → Feature
  | create => .createTable
  | drop | dropIfExists => .dropTable
  | dropAllTables => .dropAllTables
  | dropAllViews => .dropAllViews
  | dropAllTypes => .dropAllTypes
  | getAllViews => .views
  | rename => .renameTable
  | enableForeignKeyConstraints | disableForeignKeyConstraints => .foreignKeyConstraints
  | registerCustomType => .customTypes
  | beginTransaction | commit | rollback => .transactions

/-- A question about the indexes of the daemon. -/
inductive Inspection where
  | hasTable (table : String)
  | hasColumn (table column : String)
  | hasColumns (table : String) (columns : List String)
  | columnListing (table : String)
  | columnType (table column : String)
  | allTables

namespace Inspection

/-- What an inspection comes to. -/
def plan (tablePrefix : String) : Inspection → Plan
  | hasTable table =>
    let name := Query.tableName tablePrefix table
    .fetch ⟨.show, Listing.showTablesLike, [.text name]⟩ fun rows =>
      .ok (.flag (Listing.hasTable rows name))
  | hasColumn table column => describe table fun rows => .flag (Listing.hasColumn rows column)
  | hasColumns table columns => describe table fun rows => .flag (Listing.hasColumns rows columns)
  | columnListing table => describe table fun rows => .names (Listing.columnNames rows)
  | columnType table column =>
    describe table fun rows => .columnType (Listing.columnType? rows column)
  | allTables =>
    .fetch ⟨.show, Listing.showTables, []⟩ fun rows => .ok (.names (Listing.tableNames rows))
where
  /-- Reads the description of an index. -/
  describe (table : String) (read : List Row → Answer) : Plan :=
    .fetch ⟨.desc, Listing.describe (Query.tableName tablePrefix table), []⟩ fun rows =>
      .ok (read rows)

end Inspection

namespace ChangeSet

/-- The plan of a declared change: its statements one after the other, or why it has none. -/
def plan (tablePrefix : String) (notes : List Measurement) (s : ChangeSet) : Plan :=
  match s.statements tablePrefix with
  | .ok statements => .sequence notes (statements.map fun sql => ⟨.alter, sql, []⟩)
  | .error e => .settled (notes ++ e.refusals) (.error e)

/-- The plan of a script of declarations on an index. -/
def scriptPlan (tablePrefix table : String) (script : ChangeScript) : Plan :=
  match ({ table } : ChangeSet).follow script with
  | (notes, .ok s) => s.plan tablePrefix notes
  | (notes, .error e) => .settled notes (.error e)

end ChangeSet

/-! ## Entities -/

namespace Entity

/-- The query that an entity starts from. -/
def query (e : Entity) : Query := { index := some e.table }

/-- The query for one page of an entity. -/
def pageQuery (e : Entity) (page : UInt64) : Query :=
  { e.query with window := ⟨some e.perPage, some (pageOffset page e.perPage)⟩ }

/-- The plan to find the row with an id, decoded. -/
def findPlan (tablePrefix : String) (e : Entity) (id : Int64) : Plan :=
  Query.fetchPlan .select
    (fun rows =>
      match rows.head? with
      | some row => (e.decodeRow row).map fun decoded => .row (some decoded)
      | none => .ok (.row none))
    ((e.query.withId e.key id).limitedToFirst.select tablePrefix)

/-- The plan to read one page of rows, decoded. -/
def pagePlan (tablePrefix : String) (e : Entity) (page : UInt64) : Plan :=
  Query.fetchPlan .select (fun rows => (rows.mapM e.decodeRow).map .rows)
    ((e.pageQuery page).select tablePrefix)

end Entity

/-! ## All operations -/

/-- An operation on a connection. -/
inductive Operation where
  | query (table : Option String) (calls : List QueryCall) (terminal : Terminal)
  | select (sql : String) (params : List Param)
  | statement (sql : String) (params : List Param)
  | affecting (sql : String) (params : List Param)
  | relational (operation : RelationalOperation)
  | alter (table : String) (script : ChangeScript)
  | inspect (inspection : Inspection)
  | find (entity : Entity) (id : Int64)
  | page (entity : Entity) (page : UInt64)

namespace Operation

/-- What an operation comes to on a connection with a table prefix. -/
def plan (tablePrefix : String) : Operation → Plan
  | query table calls terminal =>
    .after (({ index := table } : Query).applyCalls calls) fun q =>
      q.terminalPlan tablePrefix terminal
  | select sql params => .fetch ⟨.select, sql, params⟩ Query.readRows
  | statement sql params => .execute ⟨.statement, sql, params⟩ fun _ => .flag true
  | affecting sql params => .execute ⟨.affecting, sql, params⟩ .number
  | relational operation => .refuse operation.feature
  | alter table script => ChangeSet.scriptPlan tablePrefix table script
  | inspect inspection => inspection.plan tablePrefix
  | find entity id => entity.findPlan tablePrefix id
  | page entity number => entity.pagePlan tablePrefix number

/-- Carries out an operation on a link. -/
def run (tablePrefix : String) (link : Link) (operation : Operation) : Exchange Answer :=
  (operation.plan tablePrefix).run link

end Operation

end SearchQL
