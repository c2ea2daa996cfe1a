import Warehouse.Text.Case

/-! # Warehouse dialects

The four engines whose tables are described here. A dialect is named by a tag in
small letters; `Dialect.resolve?` accepts a tag in any letter case. -/

namespace Warehouse

/-- A supported warehouse engine. -/
inductive Dialect where
  | synapse
  | teradata
  | exasol
  | snowflake
deriving DecidableEq, Repr

namespace Dialect

/-- The dialects in the order in which they are offered to a user. -/
def all : List Dialect := [synapse, teradata, exasol, snowflake]

/-- The tag of a dialect. -/
def name : Dialect → String
  | synapse => "synapse"
  | teradata => "teradata"
  | exasol => "exasol"
  | snowflake => "snowflake"

/-- The name of a dialect in messages. -/
def title : Dialect → String
  | synapse => "Synapse"
  | teradata => "Teradata"
  | exasol => "Exasol"
  | snowflake => "Snowflake"

/-- The dialect with exactly the given tag. -/
def ofName? (text : String) : Option Dialect := all.find? (·.name = text)

/-- The dialect that a tag in any letter case names. -/
def resolve? (tag : String) : Option Dialect := ofName? (Text.lower tag)

/-- The greatest number of columns of a table, where the engine has a limit. -/
def maxColumns : Dialect → Option Nat
  | synapse => some 1024
  | teradata => some 2048
  | exasol => some 10000
  | snowflake => none

end Dialect

end Warehouse
