import Warehouse.Catalog.Query

/-! # The dictionary of Teradata

Tables are found in the `DBC` dictionary by database and table name. A column has
a type code; lengths are counted in bytes, of which a Unicode character takes
two. -/

namespace Warehouse.Catalog.Teradata

/-- Finds a table; without a row there is none. -/
def lookup (name : TableName) : Query (Option ObjectId) where
  sql := [
    .plain ("SELECT t.\"TVMId\" AS \"object_id\" FROM \"DBC\".\"TVM\" t " ++
      "JOIN \"DBC\".\"Dbase\" d ON d.\"DatabaseId\" = t.\"DatabaseId\" " ++
      "WHERE d.\"DatabaseName\" = "),
    .literal name.schema, .plain " AND t.\"TVMName\" = ", .literal name.table]
  read
    | [] => .ok none
    | row :: _ => do return some (← row.text? "object_id")

/-- The type codes with the types that they stand for. -/
def typeCodes : List (String × String) := [
  ("CV", "VARCHAR"), ("CF", "CHAR"), ("CO", "CLOB"), ("I1", "BYTEINT"), ("I2", "SMALLINT"),
  ("I", "INTEGER"), ("I8", "BIGINT"), ("D", "DECIMAL"), ("F", "FLOAT"), ("N", "NUMBER"),
  ("DA", "DATE"), ("AT", "TIME"), ("TS", "TIMESTAMP"), ("TZ", "TIME WITH TIME ZONE"),
  ("SZ", "TIMESTAMP WITH TIME ZONE"), ("BF", "BYTE"), ("BV", "VARBYTE"), ("BO", "BLOB")]

/-- The code is of a type that holds characters. -/
def isCharacterCode (code : String) : Bool := ["CV", "CF", "CO"].contains code

/-- The code is of a type that holds bytes. -/
def isByteCode (code : String) : Bool := ["BF", "BV"].contains code

/-- The character set that a character type number stands for. -/
def characterSet? : Option Int → Option CharacterSet
  | some 1 => some .latin
  | some 2 => some .unicode
  | _ => none

/-- The type that the code in a row stands for. -/
def typeOfCode (name : TableName) (code : Option String) : Except Failure (String × String) :=
  match code with
  | none => .error (.catalog (.unknownColumnCode Value.nullWord name))
  | some code =>
      match typeCodes.lookup code with
      | some type => .ok (code, type)
      | none => .error (.catalog (.unknownColumnCode code name))

/-- The length of a column of the given type code. -/
def length (code : String) (characters : Option Int) (row : Row) :
    Except CellFault (Option String) := do
  if isCharacterCode code then
    let bytes ← row.integer? "ColumnLength"
    if characters = some 2 then return some (← (Value.number (← halved bytes)).asText)
    else return some (← (Value.ofNumber? bytes).asText)
  else if isByteCode code then return some (← row.numeral "ColumnLength")
  else if code = "D" then
    let total ← row.numeral "DecimalTotalDigits"
    let fractional ← row.numeral "DecimalFractionalDigits"
    return some (total ++ "," ++ fractional)
  else return none

/-- The column that a row describes. -/
def column (name : TableName) (row : Row) : Except Failure Column := do
  let (code, type) ← typeOfCode name (← row.text? "ColumnType")
  let characters ← row.integer? "CharType"
  let default ← row.cell "DefaultValue"
  let columnName ← row.text? "ColumnName"
  let length ← length code characters row
  let nullable ← row.flag "Nullable"
  let expression ← default.trimmed?
  let set := if isCharacterCode code then characterSet? characters else none
  let definition ← Definition.make .teradata {
    type, length := .ofText? length, nullable, default := expression
    characterSet := set.map CharacterSet.name }
  Column.ofName .plain (.ofText? columnName) definition

/-- The columns of a table in order. -/
def columns (name : TableName) : Query (List Column) where
  sql := [
    .plain ("SELECT \"ColumnName\", \"ColumnType\", \"ColumnLength\", \"DecimalTotalDigits\", " ++
      "\"DecimalFractionalDigits\", \"Nullable\", \"DefaultValue\", \"CharType\" " ++
      "FROM \"DBC\".\"ColumnsV\" WHERE \"DatabaseName\" = "),
    .literal name.schema, .plain " AND \"TableName\" = ", .literal name.table,
    .plain " ORDER BY \"ColumnId\""]
  read rows := rows.mapM (column name)

/-- The key columns of a table in order. A key that is also the primary index is
recorded as a unique index and not as a key. -/
def keys (name : TableName) : Query (List Value) where
  sql := [
    .plain "SELECT \"ColumnName\" FROM \"DBC\".\"IndicesV\" WHERE \"DatabaseName\" = ",
    .literal name.schema, .plain " AND \"TableName\" = ", .literal name.table,
    .plain (" AND \"IndexType\" IN ('K', 'P', 'Q') AND \"UniqueFlag\" = 'Y' " ++
      "ORDER BY \"ColumnPosition\"")]
  read rows := namesUnder "ColumnName" rows

end Warehouse.Catalog.Teradata
