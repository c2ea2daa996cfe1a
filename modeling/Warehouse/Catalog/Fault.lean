import Warehouse.ErrorCode
import Warehouse.Table.Definition

/-! # Catalogs that cannot be understood

What can be wrong with the description that a catalog gives of a table, apart
from single cells. -/

namespace Warehouse

/-- What can be wrong with the description of a table in a catalog. -/
inductive CatalogFault where
  | tableMissing (name : TableName)
  | unknownIndex (given : String) (name : TableName)
  | unknownColumnCode (code : String) (name : TableName)
deriving DecidableEq, Repr

namespace CatalogFault

/-- The message for a fault. -/
def message : CatalogFault → String
  | tableMissing name => "Table \"" ++ name.schema ++ "." ++ name.table ++ "\" does not exist."
  | unknownIndex given name =>
      "Unknown index type \"" ++ given ++ "\" of table \"" ++ name.schema ++ "." ++ name.table ++
        "\""
  | unknownColumnCode code name =>
      "Unsupported column type code \"" ++ code ++ "\" in table \"" ++ name.schema ++ "." ++
        name.table ++ "\""

/-- The code of a fault. -/
def code : CatalogFault → ErrorCode
  | tableMissing _ => .tableNotExists
  | unknownIndex _ _ => .invalidTableIndex
  | unknownColumnCode _ _ => .invalidType

/-- The family of a fault: missing tables have one of their own. -/
def refusal : CatalogFault → Refusal
  | tableMissing _ => .missingTable
  | unknownIndex _ _ | unknownColumnCode _ _ => .catalog

end CatalogFault

end Warehouse
