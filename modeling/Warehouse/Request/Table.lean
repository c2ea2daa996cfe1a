import Warehouse.Log.Entry
import Warehouse.Request.Fault
import Warehouse.Table.Definition

/-! # Requests about tables

A request asks for one statement: to create a table or a temporary one, to drop
it, to remove its rows, or to rename it. `TableRequest.faults` lists everything
that is wrong with a request in the order in which it is reported, and
`TableRequest.compile` gives the statement if that list is empty and its first
fault otherwise. No connection is involved. -/

namespace Warehouse

/-- A request for a statement about a table. Only Synapse looks at distribution
and index of a table to be created. -/
inductive TableRequest where
  | create (name : TableName) (columns : Columns) (primaryKeys : List Value)
      (distribution : Option Distribution) (index : Option Index)
  | createTemporary (name : TableName) (columns : Columns)
  | drop (name : TableName)
  | truncate (name : TableName)
  | rename (name : TableName) (newTable : String)
deriving DecidableEq

/-! ## What is checked -/

namespace Dialect

/-- The faults of the name of a table. -/
def tableNameFaults (dialect : Dialect) (name : TableName) : List RequestFault :=
  dialect.nameFaults .schema name.schema ++ dialect.nameFaults .table name.table

/-- The fault of having more columns than the dialect admits. -/
def columnCountFaults (dialect : Dialect) (columns : Columns) : List RequestFault :=
  match dialect.maxColumns with
  | none => []
  | some limit => if columns.size ≤ limit then [] else [.tooManyColumns limit columns.size]

/-- The faults of the name of a column: it is not a text, or not admitted. -/
def columnNameFaults (dialect : Dialect) (name : Value) : List RequestFault :=
  match name.word? with
  | some word => dialect.nameFaults .column word
  | none => [.nameNotText]

/-- The faults of a column: a name that is not admitted, a type of another
dialect. -/
def columnFaults (dialect : Dialect) (column : Column) : List RequestFault :=
  dialect.columnNameFaults column.name ++
    (if column.dialect = dialect then []
     else [.foreignColumn column.name.wording column.dialect dialect])

/-- The faults of key columns: names that are not admitted, names that are no
column, columns that allow null. -/
def keyFaults (dialect : Dialect) (columns : Columns) (keys : List Value) :
    List RequestFault :=
  let missing := columns.missing keys
  keys.flatMap dialect.columnNameFaults ++
    (if missing = [] then [] else [.keysNotInColumns (missing.map Value.wording)]) ++
    (columns.nullableAmong keys).map fun key => .nullableKey key.wording

/-- The faults of a column that a distribution or an index names. -/
def storageColumnFaults (dialect : Dialect) (columns : Columns) (name : String) :
    List RequestFault :=
  dialect.nameFaults .column name ++
    (if columns.has (.text name) then [] else [.storageColumnMissing name])

/-- The faults that a table to be created has in every dialect. -/
def creationFaults (dialect : Dialect) (name : TableName) (columns : Columns)
    (keys : List Value) : List RequestFault :=
  dialect.tableNameFaults name ++ dialect.columnCountFaults columns ++
    columns.toList.flatMap dialect.columnFaults ++ dialect.keyFaults columns keys

end Dialect

/-- The columns that a storage names, those of the distribution first. -/
def storageColumns (distribution : Option Distribution) (index : Option Index) : List String :=
  (distribution.map (·.columns)).getD [] ++ (index.map (·.columns)).getD []

namespace TableRequest

/-- All faults of a request, in the order in which they are reported. -/
def faults (dialect : Dialect) : TableRequest → List RequestFault
  | create name columns keys distribution index =>
      dialect.creationFaults name columns keys ++
        (if dialect = .synapse then
          (if hasSessionMark name.table then [.reservedTableName name.table] else []) ++
            (storageColumns distribution index).flatMap (dialect.storageColumnFaults columns)
         else [])
  | createTemporary name columns =>
      if dialect = .exasol then [.noTemporaryTables dialect]
      else dialect.creationFaults name columns [] ++
        (if dialect = .synapse ∧ ¬ hasSessionMark name.table then
          [.sessionMarkMissing name.table]
         else [])
  | drop name => dialect.tableNameFaults name
  | truncate name => dialect.tableNameFaults name
  | rename name newTable =>
      dialect.tableNameFaults name ++ dialect.nameFaults .table newTable

end TableRequest

/-! ## What is written -/

/-- The fixed text around the columns of a table to be created. -/
structure TableLayout where
  opening : String
  beforeColumns : String
  separator : String
  closing : String
deriving DecidableEq, Repr

/-- The fixed text around the key columns of a table to be created. -/
structure KeyLayout where
  opening : String
  separator : String
  closing : String
deriving DecidableEq, Repr

namespace Dialect

/-- The layout of a table to be created, which in Teradata depends on whether it
has keys: without them its rows must not be distributed by the first column. -/
def tableLayout (dialect : Dialect) (keyed : Bool) : TableLayout :=
  match dialect with
  | teradata => {
      opening := "CREATE MULTISET TABLE ", beforeColumns := ", FALLBACK\n(", separator := ",\n"
      closing := if keyed then ");" else ") NO PRIMARY INDEX;" }
  | synapse | exasol | snowflake => {
      opening := "CREATE TABLE ", beforeColumns := " (", separator := ", ", closing := ")" }

/-- The layout of a temporary table to be created. Exasol has none; its requests
are refused before a layout is needed. -/
def temporaryLayout : Dialect → TableLayout
  | synapse => {
      opening := "CREATE TABLE ", beforeColumns := " (", separator := ", "
      closing := ") WITH (HEAP, LOCATION = USER_DB)" }
  | teradata => {
      opening := "CREATE MULTISET VOLATILE TABLE "
      beforeColumns := ", NO FALLBACK, NO LOG\n(", separator := ",\n"
      closing := ") NO PRIMARY INDEX ON COMMIT PRESERVE ROWS;" }
  | exasol | snowflake => {
      opening := "CREATE TEMPORARY TABLE ", beforeColumns := " (", separator := ", "
      closing := ")" }

/-- The layout of the key columns. -/
def keyLayout : Dialect → KeyLayout
  | synapse => {
      opening := ", PRIMARY KEY NONCLUSTERED(", separator := ",", closing := ") NOT ENFORCED" }
  | teradata => { opening := ",\nPRIMARY KEY (", separator := ", ", closing := ")" }
  | exasol => { opening := ", CONSTRAINT PRIMARY KEY (", separator := ",", closing := ")" }
  | snowflake => { opening := ", PRIMARY KEY (", separator := ",", closing := ")" }

end Dialect

/-- The columns of a table with a separator between them. -/
def Columns.sql (separator : String) (columns : Columns) : Sql :=
  [Piece.plain separator].intercalate (columns.toList.map Column.sql)

/-- The key clause, empty without keys. -/
def KeyLayout.sql (layout : KeyLayout) (keys : List Value) : Sql :=
  if keys = [] then []
  else .plain layout.opening :: Sql.names layout.separator (keys.map Value.wording) ++
    [.plain layout.closing]

/-- A table to be created in a layout, with a clause behind its columns. -/
def TableLayout.sql (layout : TableLayout) (name : TableName) (columns : Columns)
    (clause : Sql) : Sql :=
  .plain layout.opening :: Sql.qualified name.schema name.table ++
    .plain layout.beforeColumns :: columns.sql layout.separator ++ clause ++
    [.plain layout.closing]

/-- Names in parentheses, or nothing if there are none. -/
def parenthesised (names : List String) : Sql :=
  if names = [] then [] else .plain "(" :: Sql.names "," names ++ [.plain ")"]

/-- The index of a table as an option of its creation. -/
def Index.option (index : Index) : Sql := .plain index.type :: parenthesised index.columns

/-- The distribution of a table as an option of its creation. -/
def Distribution.option (distribution : Distribution) : Sql :=
  .plain ("DISTRIBUTION = " ++ distribution.name) :: parenthesised distribution.columns

/-- The clause with the storage options, empty without any. -/
def storageClause (distribution : Option Distribution) (index : Option Index) : Sql :=
  match index, distribution with
  | none, none => []
  | some index, none => .plain " WITH (" :: index.option ++ [.plain ")"]
  | none, some distribution => .plain " WITH (" :: distribution.option ++ [.plain ")"]
  | some index, some distribution =>
      .plain " WITH (" :: index.option ++ .plain ", " :: distribution.option ++ [.plain ")"]

namespace TableRequest

/-- The statement for a request without faults. -/
def sql (dialect : Dialect) : TableRequest → Sql
  | create name columns keys distribution index =>
      (dialect.tableLayout (keys ≠ [])).sql name columns (dialect.keyLayout.sql keys) ++
        (if dialect = .synapse then storageClause distribution index else [])
  | createTemporary name columns => dialect.temporaryLayout.sql name columns []
  | drop name => .plain "DROP TABLE " :: Sql.qualified name.schema name.table
  | truncate name =>
      match dialect with
      | .teradata =>
          .plain "DELETE " :: Sql.qualified name.schema name.table ++ [.plain " ALL"]
      | .synapse | .exasol | .snowflake =>
          .plain "TRUNCATE TABLE " :: Sql.qualified name.schema name.table
  | rename name newTable =>
      let old := Sql.qualified name.schema name.table
      match dialect with
      | .synapse => .plain "RENAME OBJECT " :: old ++ [.plain " TO ", .name newTable]
      | .teradata =>
          .plain "RENAME TABLE " :: old ++ .plain " AS " :: Sql.qualified name.schema newTable
      | .exasol => .plain "RENAME TABLE " :: old ++ [.plain " TO ", .name newTable]
      | .snowflake =>
          .plain "ALTER TABLE " :: old ++
            .plain " RENAME TO " :: Sql.qualified name.schema newTable

/-- The statement for a request, or its first fault. -/
def compile (dialect : Dialect) (request : TableRequest) : Except RequestFault Sql :=
  match request.faults dialect with
  | [] => .ok (request.sql dialect)
  | fault :: _ => .error fault

/-- The request that creates a defined table. Its keys are left out unless they
are asked for; a temporary table never has any. The storage of a table defined
for Synapse is carried over. -/
def ofDefinition (definition : TableDefinition) (withKeys : Bool) : TableRequest :=
  if definition.temporary then createTemporary definition.name definition.columns
  else create definition.name definition.columns
    (if withKeys then definition.primaryKeys else [])
    (definition.storage.map (·.distribution)) (definition.storage.map (·.index))

/-! ## What is logged -/

/-- A record of this module about a table. -/
def entry (dialect : Dialect) (event : String) (name : TableName)
    (fields : Fields) : Log.Entry where
  level := .debug
  logger := "table_backend_utils.table.builders.base"
  event := event
  fields := [("dialect", .text dialect.name), ("schema", .text name.schema),
    ("table", .text name.table)] ++ fields

/-- The record of a table to be created. -/
def creationEntry (dialect : Dialect) (name : TableName) (columns : Columns)
    (keys : List Value) (temporary : Bool) : Log.Entry :=
  entry dialect "table_query_builder.create_table" name [
    ("columns_count", .number columns.size), ("primary_keys", .list keys),
    ("temporary", .flag temporary)]

/-- The records that a request without faults writes. Requests to remove rows and
to rename write none. -/
def entries (dialect : Dialect) : TableRequest → List Log.Entry
  | create name columns keys _ _ => [creationEntry dialect name columns keys false]
  | createTemporary name columns => [creationEntry dialect name columns [] true]
  | drop name => [entry dialect "table_query_builder.drop_table" name []]
  | truncate _ | rename _ _ => []

end TableRequest

end Warehouse
