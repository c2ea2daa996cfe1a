import Warehouse.Catalog.Query

/-! # The reports of Snowflake

Snowflake answers `SHOW` and `DESC` commands. A pattern in a `SHOW` command takes
the underscore for any character and ignores letter case, so the answer is
searched for the exact name. A table has no number; its full name identifies
it. The names of columns are passed on as the cells that they come in. -/

namespace Warehouse.Catalog.Snowflake

/-- The command that shows the tables whose names are like a given one. -/
def showTables (name : TableName) : Sql :=
  [.plain "SHOW TABLES LIKE ", .literal name.table, .plain " IN SCHEMA ", .name name.schema]

/-- The row of the table with exactly the given name. -/
def findTable (table : String) : List Row → Except CellFault (Option Row)
  | [] => .ok none
  | row :: rest => do
      match ← row.cell "name" with
      | .text found => if found = table then return some row else findTable table rest
      | _ => findTable table rest

/-- The full name of the table that a row shows. -/
def fullName (row : Row) : Except CellFault String := do
  let parts ← ["database_name", "schema_name", "name"].mapM row.text?
  match parts.mapM id with
  | some parts => return ".".intercalate parts
  | none => throw .absentName

/-- Finds a table. -/
def lookup (name : TableName) : Query (Option ObjectId) where
  sql := showTables name
  read rows := do
    match ← findTable name.table rows with
    | none => return none
    | some row => return some (some (← fullName row))

/-- A text in capitals, or the given word where there is no text or an empty one. -/
def wordOr (word : String) (text : Option String) : String :=
  match text with
  | none => word
  | some text => if text = "" then word else Text.upper text

/-- Whether a table is temporary, if it exists. -/
def temporary (name : TableName) : Query (Option Bool) where
  sql := showTables name
  read rows := do
    match ← findTable name.table rows with
    | none => return none
    | some row =>
        let kind ← row.text? "kind"
        return some (wordOr "" kind = "TEMPORARY")

/-- A capital, a digit or an underscore, of which type names consist. -/
def isTypeChar (c : Char) : Bool := c.isUpper || c.isDigit || c = '_'

/-- A type name and the parameter in parentheses behind it. A text of any other
form is taken for a type name as a whole. -/
def splitType (chars : List Char) : List Char × Option (List Char) :=
  let type := chars.takeWhile isTypeChar
  let rest := chars.dropWhile isTypeChar
  if type.isEmpty then (chars, none)
  else match rest with
    | [] => (type, none)
    | '(' :: behind =>
        if behind.dropWhile (· ≠ ')') = [')'] then (type, some (behind.takeWhile (· ≠ ')')))
        else (chars, none)
    | _ => (chars, none)

/-- The column that a row describes. -/
def column (row : Row) : Except Failure Column := do
  let written ← row.text "type"
  let (type, length) := splitType (Text.capitalWords written).toList
  let default ← row.cell "default"
  let name ← row.cell "name"
  let null ← row.text? "null?"
  let expression ← default.text?
  let definition ← Definition.make .snowflake {
    type := String.ofList type
    length := .ofText? (length.map String.ofList)
    nullable := wordOr "Y" null = "Y"
    default := expression }
  Column.ofName .plain name definition

/-- The row describes a column and not something else that belongs to a table. -/
def describesColumn (row : Row) : Except CellFault Bool := do
  let kind ← row.text? "kind"
  return wordOr "COLUMN" kind = "COLUMN"

/-- The column that a row describes, if it describes one. -/
def column? (row : Row) : Except Failure (Option Column) := do
  if ← describesColumn row then return some (← column row) else return none

/-- The columns of a table in order. -/
def columns (name : TableName) : Query (List Column) where
  sql := .plain "DESC TABLE " :: Sql.qualified name.schema name.table
  read rows := do return (← rows.mapM column?).filterMap id

/-- Rows with their sequence numbers in the order of these; rows of one number
stay in order. Of several rows none may be without a number. -/
def sortedBySequence (rows : List (Option Int × Row)) : Except CellFault (List Row) :=
  match rows with
  | [(_, row)] => .ok [row]
  | _ => do
      let numbered ← rows.mapM fun (number, row) =>
        match number with
        | some number => Except.ok (number, row)
        | none => .error .absentNumber
      return (numbered.mergeSort fun first second => first.1 ≤ second.1).map Prod.snd

/-- The key columns of a table in the order of their sequence numbers. -/
def keys (name : TableName) : Query (List Value) where
  sql := .plain "SHOW PRIMARY KEYS IN TABLE " :: Sql.qualified name.schema name.table
  read rows := do
    let numbered ← rows.mapM fun row => do return ((← row.integer? "key_sequence"), row)
    let sorted ← sortedBySequence numbered
    sorted.mapM (·.cell "column_name")

end Warehouse.Catalog.Snowflake
