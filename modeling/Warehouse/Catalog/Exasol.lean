import Warehouse.Catalog.Exasol.ColumnType
import Warehouse.Catalog.Query

/-! # The system tables of Exasol

Tables, columns and key columns are read from the `EXA_ALL` tables by schema and
table name. A table may have no number; it exists all the same. -/

namespace Warehouse.Catalog.Exasol

/-- Finds a table; without a row there is none. -/
def lookup (name : TableName) : Query (Option ObjectId) where
  sql := [
    .plain "SELECT \"TABLE_OBJECT_ID\" FROM \"SYS\".\"EXA_ALL_TABLES\" WHERE \"TABLE_SCHEMA\" = ",
    .literal name.schema, .plain " AND \"TABLE_NAME\" = ", .literal name.table]
  read
    | [] => .ok none
    | row :: _ => do return some (← row.text? "TABLE_OBJECT_ID")

/-- The column that a row describes. -/
def column (row : Row) : Except Failure Column := do
  let written ← WrittenType.ofCell (← row.cell "COLUMN_TYPE")
  let default ← row.cell "COLUMN_DEFAULT"
  let name ← row.text? "COLUMN_NAME"
  let nullable ← row.flag "COLUMN_IS_NULLABLE"
  let expression ← default.text?
  let definition ← Definition.make .exasol {
    type := written.type, length := .ofText? written.length, nullable, default := expression }
  Column.ofName .plain (.ofText? name) definition

/-- The columns of a table in order. -/
def columns (name : TableName) : Query (List Column) where
  sql := [
    .plain ("SELECT \"COLUMN_NAME\", \"COLUMN_TYPE\", \"COLUMN_IS_NULLABLE\", " ++
      "\"COLUMN_DEFAULT\" FROM \"SYS\".\"EXA_ALL_COLUMNS\" WHERE \"COLUMN_SCHEMA\" = "),
    .literal name.schema, .plain " AND \"COLUMN_TABLE\" = ", .literal name.table,
    .plain " ORDER BY \"COLUMN_ORDINAL_POSITION\""]
  read rows := rows.mapM column

/-- The key columns of a table in order. -/
def keys (name : TableName) : Query (List Value) where
  sql := [
    .plain ("SELECT \"COLUMN_NAME\" FROM \"SYS\".\"EXA_ALL_CONSTRAINT_COLUMNS\" " ++
      "WHERE \"CONSTRAINT_SCHEMA\" = "),
    .literal name.schema, .plain " AND \"CONSTRAINT_TABLE\" = ", .literal name.table,
    .plain " AND \"CONSTRAINT_TYPE\" = 'PRIMARY KEY' ORDER BY \"ORDINAL_POSITION\""]
  read rows := namesUnder "COLUMN_NAME" rows

end Warehouse.Catalog.Exasol
