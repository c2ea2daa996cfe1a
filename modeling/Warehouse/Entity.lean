import Warehouse.Table.Definition

/-! # Things that can be compared

Column types, columns, column lists, distributions, indexes and tables can be
compared with each other. Things of different kinds are never the same, a column
is the same only as a column declared in the same way, and lists of columns are
compared by the names and type texts of their columns. Things that are the same
have the same `Entity.hashKey`, from which a hash may be computed. -/

namespace Warehouse

/-- Anything that takes part in the description of a table. -/
inductive Entity where
  | definition (definition : Definition)
  | column (column : Column)
  | columns (columns : Columns)
  | distribution (distribution : Distribution)
  | index (index : Index)
  | table (table : TableDefinition)

namespace Entity

/-- The two things are the same. -/
def sameAs : Entity → Entity → Bool
  | definition first, definition second => first = second
  | column first, column second => first.sameAs second
  | columns first, columns second => first.sameAs second
  | distribution first, distribution second => first = second
  | index first, index second => first = second
  | table first, table second => first.sameAs second
  | _, _ => false

/-- Texts as the value of a list. -/
def textList (texts : List String) : Value := .list (texts.map .text)

/-- The parts of a column type that enter its hash. Only Teradata has a place for
a character set. -/
def definitionKey (definition : Definition) : Value :=
  .list ([.text definition.type, .ofText? (definition.length.map Length.text),
      .flag definition.nullable, .ofText? definition.default] ++
    if definition.dialect = .teradata then
      [.ofText? (definition.characterSet.map CharacterSet.name)]
    else [])

/-- The parts of a column list that enter its hash. -/
def columnsKey (columns : Columns) : Value :=
  .list (columns.key.map fun (name, type) => .list [name, .text type])

/-- The parts of a distribution that enter its hash. -/
def distributionKey (distribution : Distribution) : Value :=
  .list [.text distribution.name, textList distribution.columns]

/-- The parts of an index that enter its hash. -/
def indexKey (index : Index) : Value := .list [.text index.type, textList index.columns]

/-- The parts of a storage that enter the hash of its table. -/
def storageKey : Option Storage → List Value
  | none => []
  | some storage => [distributionKey storage.distribution, indexKey storage.index]

/-- The value from which the hash of a thing is computed. -/
def hashKey : Entity → Value
  | definition given => definitionKey given
  | column given => .list [given.name.comparable, definitionKey given.definition]
  | columns given => columnsKey given
  | distribution given => distributionKey given
  | index given => indexKey given
  | table given =>
      .list ([.text given.name.schema, .text given.name.table, .flag given.temporary,
          columnsKey given.columns, .list (given.primaryKeys.map Value.comparable)] ++
        storageKey given.storage)

end Entity

end Warehouse
