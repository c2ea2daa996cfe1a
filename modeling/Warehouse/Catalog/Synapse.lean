import Warehouse.Catalog.Query
import Warehouse.Text.Parenthesis

/-! # The catalog views of Synapse

A table is found by asking for the number of its quoted name; everything else is
read from the `sys` views by this number. Tables of the session live in the
temporary database and are described there. Lengths are counted in bytes, of
which a national character takes two, and stored defaults come wrapped in
parentheses. -/

namespace Warehouse.Catalog.Synapse

/-- The name by which the number of a table is asked for. -/
def objectName (name : TableName) : String :=
  if hasSessionMark name.table then
    Sql.text .synapse [.plain "tempdb..", .name name.table]
  else Sql.text .synapse (Sql.qualified name.schema name.table)

/-- Finds a table: without a row, or with a null or blank number, there is none. -/
def lookup (name : TableName) : Query (Option ObjectId) where
  sql := [.plain "SELECT OBJECT_ID(N", .literal (objectName name), .plain ") AS [object_id]"]
  read
    | [] => .ok none
    | row :: _ => do
        match ← row.text? "object_id" with
        | none => return none
        | some number => return if number = "" then none else some (some number)

/-- The views that describe a table. -/
def views (name : TableName) : String :=
  if hasSessionMark name.table then "tempdb.sys" else "sys"

/-- The number of a table as it stands in a statement. -/
def objectNumber (object : ObjectId) : Except CellFault String :=
  match Text.integer? (object.getD "") with
  | some number => .ok (toString number)
  | none => .error .notInteger

/-! ## Columns -/

/-- The length of a column of the given type, in capitals. -/
def length (type : String) (row : Row) : Except CellFault (Option String) := do
  if ["CHAR", "VARCHAR", "BINARY", "VARBINARY"].contains type then
    let bytes ← row.integer? "max_length"
    if bytes = some (-1) then return some "MAX"
    else return some (← (Value.ofNumber? bytes).asText)
  else if ["NCHAR", "NVARCHAR"].contains type then
    let bytes ← row.integer? "max_length"
    if bytes = some (-1) then return some "MAX"
    else return some (← (Value.number (← halved bytes)).asText)
  else if ["DECIMAL", "NUMERIC"].contains type then
    let precision ← row.numeral "precision"
    let scale ← row.numeral "scale"
    return some (precision ++ "," ++ scale)
  else if ["DATETIME2", "TIME", "DATETIMEOFFSET"].contains type then
    match ← row.integer? "scale" with
    | none => return none
    | some scale => if scale = 7 then return none else return some (← (Value.number scale).asText)
  else return none

/-- The column that a row describes. -/
def column (row : Row) : Except Failure Column := do
  let type := Text.upper (← row.text "type_name")
  let default ← row.cell "default_value"
  let name ← row.text? "column_name"
  let length ← length type row
  let nullable ← row.flag "is_nullable"
  let expression ← default.text?
  let definition ← Definition.make .synapse {
    type, length := .ofText? length, nullable
    default := expression.map Text.withoutEnclosing }
  Column.ofName .plain (.ofText? name) definition

/-- The columns of a table in order. -/
def columns (name : TableName) (object : ObjectId) :
    Except CellFault (Query (List Column)) := do
  let number ← objectNumber object
  let views := views name
  return {
    sql := [.plain (
      "SELECT c.[name] AS [column_name], t.[name] AS [type_name], " ++
      "c.[max_length], c.[precision], c.[scale], c.[is_nullable], " ++
      "dc.[definition] AS [default_value] FROM " ++ views ++ ".columns c JOIN " ++ views ++
      ".types t ON c.[user_type_id] = t.[user_type_id] LEFT JOIN " ++ views ++
      ".default_constraints dc ON dc.[object_id] = c.[default_object_id] " ++
      "WHERE c.[object_id] = " ++ number ++ " ORDER BY c.[column_id]")]
    read := fun rows => rows.mapM column }

/-- The key columns of a table in order. -/
def keys (name : TableName) (object : ObjectId) :
    Except CellFault (Query (List Value)) := do
  let number ← objectNumber object
  let views := views name
  return {
    sql := [.plain (
      "SELECT c.[name] AS [column_name] FROM " ++ views ++ ".indexes i JOIN " ++ views ++
      ".index_columns ic " ++
      "ON ic.[object_id] = i.[object_id] AND ic.[index_id] = i.[index_id] JOIN " ++ views ++
      ".columns c ON c.[object_id] = ic.[object_id] AND c.[column_id] = ic.[column_id] " ++
      "WHERE i.[object_id] = " ++ number ++ " AND i.[is_primary_key] = 1 " ++
      "ORDER BY ic.[key_ordinal]")]
    read := fun rows => namesUnder "column_name" rows }

/-! ## Storage -/

/-- The columns that rows name; rows without one are passed over. -/
def namedColumns (rows : List Row) : Except CellFault (List String) := do
  return (← rows.mapM (·.text? "column_name")).filterMap id

/-- The distribution that rows describe. Columns count only for a distribution by
hash. -/
def readDistribution (rows : List Row) : Except Failure Distribution :=
  match rows with
  | [] => .ok Storage.standard.distribution
  | first :: _ => do
      let name := Text.upper (← first.text "distribution_name")
      let columns ← namedColumns rows
      Distribution.make name (if name = "HASH" then columns else [])

/-- The distribution of a table. -/
def distribution (name : TableName) (object : ObjectId) :
    Except CellFault (Query Distribution) := do
  let number ← objectNumber object
  let views := views name
  return {
    sql := [.plain (
      "SELECT dp.[distribution_policy_desc] AS [distribution_name], " ++
      "c.[name] AS [column_name] FROM " ++ views ++ ".pdw_table_distribution_properties dp " ++
      "LEFT JOIN " ++ views ++ ".pdw_column_distribution_properties cdp " ++
      "ON cdp.[object_id] = dp.[object_id] AND cdp.[distribution_ordinal] = 1 " ++
      "LEFT JOIN " ++ views ++ ".columns c " ++
      "ON c.[object_id] = cdp.[object_id] AND c.[column_id] = cdp.[column_id] " ++
      "WHERE dp.[object_id] = " ++ number)]
    read := readDistribution }

/-- The words for an index in the catalog with the types that they stand for. -/
def indexTypes : List (String × String) := [
  ("HEAP", "HEAP"), ("CLUSTERED COLUMNSTORE", "CLUSTERED COLUMNSTORE INDEX"),
  ("CLUSTERED", "CLUSTERED INDEX")]

/-- The index that rows describe. Columns count only for a clustered index. -/
def readIndex (name : TableName) (rows : List Row) : Except Failure Index :=
  match rows with
  | [] => .ok Storage.standard.index
  | first :: _ => do
      let described := Text.upper (← first.text "index_type")
      match indexTypes.lookup described with
      | none => throw (.catalog (.unknownIndex described name))
      | some type =>
          let columns ← if described = "CLUSTERED" then namedColumns rows else pure []
          Index.make type columns

/-- The index of a table. -/
def index (name : TableName) (object : ObjectId) : Except CellFault (Query Index) := do
  let number ← objectNumber object
  let views := views name
  return {
    sql := [.plain (
      "SELECT i.[type_desc] AS [index_type], c.[name] AS [column_name] FROM " ++ views ++
      ".indexes i LEFT JOIN " ++ views ++ ".index_columns ic " ++
      "ON ic.[object_id] = i.[object_id] AND ic.[index_id] = i.[index_id] " ++
      "AND ic.[key_ordinal] > 0 LEFT JOIN " ++ views ++ ".columns c " ++
      "ON c.[object_id] = ic.[object_id] AND c.[column_id] = ic.[column_id] " ++
      "WHERE i.[object_id] = " ++ number ++ " AND i.[index_id] IN (0, 1) " ++
      "ORDER BY ic.[key_ordinal]")]
    read := readIndex name }

end Warehouse.Catalog.Synapse
