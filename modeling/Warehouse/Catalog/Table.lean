import Warehouse.Catalog.Exasol
import Warehouse.Catalog.Snowflake
import Warehouse.Catalog.Synapse
import Warehouse.Catalog.Teradata
import Warehouse.Request.Table

/-! # Reading a table from its catalog

The description of one table is read by a few queries, of which the first finds
the table in the catalog. Except for the count of rows, nothing else is asked
before the table has been found, and a table that is not found is reported as
missing. Keys that allow null are accepted here, since the catalog is the
authority on a table that exists. -/

namespace Warehouse.Catalog

/-! ## Queries of a dialect -/

/-- Finds a table. -/
def lookup (dialect : Dialect) (name : TableName) : Query (Option ObjectId) :=
  match dialect with
  | .synapse => Synapse.lookup name
  | .teradata => Teradata.lookup name
  | .exasol => Exasol.lookup name
  | .snowflake => Snowflake.lookup name

/-- The columns of a table that was found. -/
def columnsQuery (dialect : Dialect) (name : TableName) (object : ObjectId) :
    Except CellFault (Query (List Column)) :=
  match dialect with
  | .synapse => Synapse.columns name object
  | .teradata => .ok (Teradata.columns name)
  | .exasol => .ok (Exasol.columns name)
  | .snowflake => .ok (Snowflake.columns name)

/-- The key columns of a table that was found. -/
def keysQuery (dialect : Dialect) (name : TableName) (object : ObjectId) :
    Except CellFault (Query (List Value)) :=
  match dialect with
  | .synapse => Synapse.keys name object
  | .teradata => .ok (Teradata.keys name)
  | .exasol => .ok (Exasol.keys name)
  | .snowflake => .ok (Snowflake.keys name)

/-- The number in the answer to a count. -/
def readCount (rows : List Row) : Except Failure Int := do
  let row ← firstRow rows
  return (← row.integer? "count").getD 0

/-- The number of rows of a table. -/
def countQuery (dialect : Dialect) (name : TableName) : Query Int where
  sql :=
    let table := Sql.qualified name.schema name.table
    match dialect with
    | .synapse => .plain "SELECT COUNT_BIG(*) AS [count] FROM " :: table
    | .teradata | .exasol | .snowflake =>
        .plain "SELECT COUNT(*) AS \"count\" FROM " :: table
  read := readCount

/-! ## Log records -/

/-- A record of this module about a table. -/
def tableEntry (level : Log.Level) (event : String) (dialect : Dialect) (name : TableName)
    (fields : Fields) : Log.Entry where
  level := level
  logger := "table_backend_utils.table.reflection.base"
  event := event
  fields := [("dialect", .text dialect.name), ("schema", .text name.schema),
    ("table", .text name.table)] ++ fields

/-- The record of a statement about a table. -/
def queryEntry (dialect : Dialect) (name : TableName) (statement : String) : Log.Entry :=
  tableEntry .debug "table_reflection.query" dialect name [("sql", .text statement)]

/-- The record of a table that is missing. -/
def missingEntry (dialect : Dialect) (name : TableName) : Log.Entry :=
  tableEntry .warning "table_reflection.table_not_exists" dialect name []

/-- The record of a table that has been read. -/
def loadedEntry (dialect : Dialect) (definition : TableDefinition) : Log.Entry :=
  tableEntry .info "table_reflection.definition_loaded" dialect definition.name [
    ("columns_count", .number definition.columns.size),
    ("primary_keys", .list definition.primaryKeys)]

/-! ## Dialogues -/

/-- Puts a query about a table to the connection. -/
def askTable {α : Type} (dialect : Dialect) (name : TableName) (query : Query α) :
    Dialogue α := do
  let statement := query.sql.text dialect
  Dialogue.record (queryEntry dialect name statement)
  let rows ← Dialogue.fetch statement
  query.read rows

/-- Reports a table as missing. -/
def reportMissing {α : Type} (dialect : Dialect) (name : TableName) : Dialogue α :=
  .log (missingEntry dialect name) (.failed (.catalog (.tableMissing name)))

/-- Puts a query that finds a table to the connection. -/
def askFound {α : Type} (dialect : Dialect) (name : TableName) (query : Query (Option α)) :
    Dialogue α := do
  match ← askTable dialect name query with
  | some found => return found
  | none => reportMissing dialect name

/-- The identification of a table. -/
def objectId (dialect : Dialect) (name : TableName) : Dialogue ObjectId :=
  askFound dialect name (lookup dialect name)

/-- Whether a table is temporary. The name tells in Synapse and the catalog in
Snowflake; the other engines describe no temporary tables. -/
def isTemporary (dialect : Dialect) (name : TableName) : Dialogue Bool :=
  match dialect with
  | .synapse => return hasSessionMark name.table
  | .snowflake => askFound dialect name (Snowflake.temporary name)
  | .teradata | .exasol => return false

/-- The columns of a table that was found, still as a list. -/
def columnsOf (dialect : Dialect) (name : TableName) (object : ObjectId) :
    Dialogue (List Column) := do
  askTable dialect name (← columnsQuery dialect name object)

/-- The key columns of a table that was found. -/
def keysOf (dialect : Dialect) (name : TableName) (object : ObjectId) :
    Dialogue (List Value) := do
  askTable dialect name (← keysQuery dialect name object)

/-- The distribution of a Synapse table that was found. -/
def distributionOf (name : TableName) (object : ObjectId) : Dialogue Distribution := do
  askTable .synapse name (← Synapse.distribution name object)

/-- The index of a Synapse table that was found. -/
def indexOf (name : TableName) (object : ObjectId) : Dialogue Index := do
  askTable .synapse name (← Synapse.index name object)

/-- The storage of a table that was found, which only Synapse describes. -/
def storageOf (dialect : Dialect) (name : TableName) (object : ObjectId) :
    Dialogue (Option Storage) :=
  match dialect with
  | .synapse => do
      let distribution ← distributionOf name object
      let index ← indexOf name object
      return some ⟨distribution, index⟩
  | .teradata | .exasol | .snowflake => return none

/-- The names of the columns of a table. -/
def columnNames (dialect : Dialect) (name : TableName) : Dialogue (List Value) := do
  let columns ← columnsOf dialect name (← objectId dialect name)
  return columns.map Column.name

/-- The columns of a table. -/
def columns (dialect : Dialect) (name : TableName) : Dialogue Columns := do
  let columns ← columnsOf dialect name (← objectId dialect name)
  Columns.ofList columns

/-- The names of the key columns of a table. -/
def primaryKeys (dialect : Dialect) (name : TableName) : Dialogue (List Value) := do
  keysOf dialect name (← objectId dialect name)

/-- The distribution of a Synapse table. -/
def distribution (name : TableName) : Dialogue Distribution := do
  distributionOf name (← objectId .synapse name)

/-- The index of a Synapse table. -/
def index (name : TableName) : Dialogue Index := do
  indexOf name (← objectId .synapse name)

/-- The description of a table. -/
def definition (dialect : Dialect) (name : TableName) : Dialogue TableDefinition := do
  let object ← objectId dialect name
  let columns ← Columns.ofList (← columnsOf dialect name object)
  let keys ← keysOf dialect name object
  let temporary ← isTemporary dialect name
  let storage ← storageOf dialect name object
  let definition ← TableDefinition.make name temporary columns keys storage false
  Dialogue.record (loadedEntry dialect definition)
  return definition

/-- The number of rows of a table. A missing table is left to the connection to
report. -/
def rowCount (dialect : Dialect) (name : TableName) : Dialogue Int :=
  askTable dialect name (countQuery dialect name)

end Warehouse.Catalog
