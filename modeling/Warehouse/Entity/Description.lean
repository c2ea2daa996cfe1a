import Warehouse.Entity

/-! # Descriptions

A thing is described by the call that makes it: its kind, and its parts in
parentheses, texts in quotes. There is no description if a name is or holds a number
with too many digits. -/

namespace Warehouse

/-- Items in parentheses; a single one has a comma behind it. -/
def describedTuple (items : List String) : String :=
  match items with
  | [single] => "(" ++ single ++ ",)"
  | items => "(" ++ ", ".intercalate items ++ ")"

/-- A text in quotes, or the word for nothing. -/
def quotedOrNull : Option String → String
  | none => Value.nullWord
  | some text => quoted text

/-- A call of a maker with named parts. -/
def describedCall (maker : String) (parts : List (String × String)) : String :=
  maker ++ "(" ++ ", ".intercalate (parts.map fun (name, part) => name ++ "=" ++ part) ++ ")"

/-- The word for a truth value. -/
def flagWord (flag : Bool) : String := if flag then "True" else "False"

/-- The maker of a column. -/
def ColumnKind.maker : ColumnKind → String
  | plain => "Column"
  | bound dialect => dialect.title ++ "Column"

/-- The description of a column type. -/
def Definition.description (definition : Definition) : String :=
  describedCall definition.dialect.title ([
      ("type", quoted definition.type),
      ("length", quotedOrNull (definition.length.map Length.text)),
      ("nullable", flagWord definition.nullable),
      ("default", quotedOrNull definition.default)] ++
    if definition.dialect = .teradata then
      [("character_set", quotedOrNull (definition.characterSet.map CharacterSet.name))]
    else [])

/-- The description of a column. -/
def Column.description? (column : Column) : Option String := do
  let name ← column.name.display?
  return describedCall column.kind.maker [
    ("name", name), ("definition", column.definition.description)]

/-- The description of a column list. -/
def Columns.description? (columns : Columns) : Option String := do
  let items ← columns.toList.mapM Column.description?
  return "ColumnCollection([" ++ ", ".intercalate items ++ "])"

/-- The description of a distribution. -/
def Distribution.description (distribution : Distribution) : String :=
  "TableDistribution(" ++ quoted distribution.name ++ ", " ++
    describedTuple (distribution.columns.map quoted) ++ ")"

/-- The description of an index. -/
def Index.description (index : Index) : String :=
  "TableIndex(" ++ quoted index.type ++ ", " ++ describedTuple (index.columns.map quoted) ++ ")"

/-- The maker of a table: tables with a storage have one of their own. -/
def TableDefinition.maker (table : TableDefinition) : String :=
  if table.storage.isSome then "SynapseTableDefinition" else "TableDefinition"

/-- The description of a table. -/
def TableDefinition.description? (table : TableDefinition) : Option String := do
  let columns ← table.columns.description?
  let keys ← table.primaryKeys.mapM Value.display?
  return describedCall table.maker ([
      ("schema_name", quoted table.name.schema), ("table_name", quoted table.name.table),
      ("is_temporary", flagWord table.temporary),
      ("columns", columns), ("primary_keys_names", describedTuple keys)] ++
    match table.storage with
    | none => []
    | some storage => [
        ("table_distribution", storage.distribution.description),
        ("table_index", storage.index.description)])

/-- The description of anything that takes part in the description of a table. -/
def Entity.description? : Entity → Option String
  | .definition given => some given.description
  | .column given => given.description?
  | .columns given => given.description?
  | .distribution given => some given.description
  | .index given => some given.description
  | .table given => given.description?

end Warehouse
