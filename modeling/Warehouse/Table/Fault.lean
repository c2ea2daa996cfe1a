import Warehouse.ErrorCode
import Warehouse.Value

/-! # Inconsistent tables

What can be wrong with a list of columns, with the keys of a table, or with the
way a table is stored. -/

namespace Warehouse

/-- What can be wrong with a description of a table. Names that are lists or maps,
missing keys that are not texts, and names without a text are misuse, about which
there is no more to say. -/
inductive TableFault where
  | structuredName
  | overlongName
  | duplicateColumn (name : String)
  | keysNotInColumns (names : List String)
  | keyNotText
  | nullableKey (name : String)
  | unknownDistribution (given : String)
  | hashNeedsOneColumn
  | distributionTakesNoColumns (name : String)
  | unknownIndex (given : String)
  | clusteredNeedsColumns
  | indexTakesNoColumns (type : String)
  | distributionColumnMissing (name : String)
  | indexedColumnMissing (name : String)
deriving DecidableEq, Repr

namespace TableFault

/-- The message for a fault, where it has one. -/
def message? : TableFault → Option String
  | structuredName | overlongName | keyNotText => none
  | duplicateColumn name => some ("Column " ++ name ++ " is defined more than once")
  | keysNotInColumns names =>
      some ("Trying to set " ++ ", ".intercalate names ++ " as PKs but not present in columns")
  | nullableKey name =>
      some ("Trying to set PK on column " ++ name ++ " but this column is nullable")
  | unknownDistribution given =>
      some ("Unknown table distribution \"" ++ given ++ "\" specified. " ++
        "Available distributions: HASH, ROUND_ROBIN, REPLICATE")
  | hashNeedsOneColumn =>
      some "HASH table distribution requires exactly one distribution column"
  | distributionTakesNoColumns name =>
      some (name ++ " table distribution does not take distribution columns")
  | unknownIndex given =>
      some ("Unknown table index type \"" ++ given ++ "\" specified. " ++
        "Available index types: HEAP, CLUSTERED COLUMNSTORE INDEX, CLUSTERED INDEX")
  | clusteredNeedsColumns => some "CLUSTERED INDEX requires at least one indexed column"
  | indexTakesNoColumns type => some (type ++ " does not take indexed columns")
  | distributionColumnMissing name =>
      some ("Distribution column " ++ name ++ " is not present in columns")
  | indexedColumnMissing name =>
      some ("Indexed column " ++ name ++ " is not present in columns")

/-- The code of a fault, where it has one. -/
def code? : TableFault → Option ErrorCode
  | structuredName | overlongName | keyNotText => none
  | duplicateColumn _ => some .duplicateColumnName
  | keysNotInColumns _ => some .primaryKeyNotInColumns
  | nullableKey _ => some .primaryKeyOnNullableColumn
  | unknownDistribution _ | hashNeedsOneColumn | distributionTakesNoColumns _
  | distributionColumnMissing _ => some .invalidTableDistribution
  | unknownIndex _ | clusteredNeedsColumns | indexTakesNoColumns _
  | indexedColumnMissing _ => some .invalidTableIndex

/-- The family of a fault, unless it is misuse. -/
def refusal? : TableFault → Option Refusal
  | structuredName | overlongName | keyNotText => none
  | duplicateColumn _ | keysNotInColumns _ | nullableKey _ | unknownDistribution _
  | hashNeedsOneColumn | distributionTakesNoColumns _ | unknownIndex _ | clusteredNeedsColumns
  | indexTakesNoColumns _ | distributionColumnMissing _ | indexedColumnMissing _ => some .columns

/-- The fault that is told with the text of a name, which has to have one. -/
def about (fault : String → TableFault) (name : Value) : TableFault :=
  match name.asText? with
  | some word => fault word
  | none => overlongName

end TableFault

end Warehouse
