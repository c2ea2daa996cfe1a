import Warehouse.ErrorCode
import Warehouse.Identifier

/-! # Refused requests

What can be wrong with a request for a statement. -/

namespace Warehouse

/-- What can be wrong with a request for a statement. A name that is not a text, and
a request about databases where there are none, are misuse, about which there is no
more to say. -/
inductive RequestFault where
  | invalidName (kind : ObjectKind) (name : String)
  | nameNotText
  | tooManyColumns (limit count : Nat)
  | foreignColumn (column : String) (dialect expected : Dialect)
  | keysNotInColumns (names : List String)
  | nullableKey (name : String)
  | reservedTableName (table : String)
  | storageColumnMissing (name : String)
  | sessionMarkMissing (table : String)
  | noTemporaryTables (dialect : Dialect)
  | cascadeUnsupported (dialect : Dialect)
  | noDatabases (dialect : Dialect)
deriving DecidableEq, Repr

namespace RequestFault

/-- The message for a fault, where it has one. -/
def message? : RequestFault → Option String
  | invalidName kind name =>
      some ("Invalid " ++ kind.noun ++ " name " ++ name ++
        ": Only alphanumeric characters dash and underscores are allowed.")
  | tooManyColumns limit count =>
      some ("Too many columns. Maximum is " ++ toString limit ++ " columns, got " ++
        toString count ++ ".")
  | foreignColumn column dialect expected =>
      some ("Column " ++ column ++ " is defined for " ++ dialect.name ++ ", expected " ++
        expected.name)
  | keysNotInColumns names =>
      some ("Trying to set " ++ ", ".intercalate names ++ " as PKs but not present in columns")
  | nullableKey name =>
      some ("Trying to set PK on column " ++ name ++ " but this column is nullable")
  | reservedTableName table =>
      some ("Table name " ++ table ++ " starting with # is reserved for temporary tables")
  | storageColumnMissing name =>
      some ("Column " ++ name ++
        " used in table distribution or index is not present in columns")
  | sessionMarkMissing table =>
      some ("Temporary table name " ++ table ++ " must start with #")
  | noTemporaryTables dialect =>
      some ("Temporary tables are not supported by " ++ dialect.title)
  | cascadeUnsupported .teradata =>
      some "Teradata cannot drop a non-empty database; delete its content first"
  | cascadeUnsupported dialect =>
      some (dialect.title ++ " does not support dropping a schema with CASCADE")
  | nameNotText | noDatabases _ => none

/-- The code of a fault, where it has one. -/
def code? : RequestFault → Option ErrorCode
  | invalidName _ _ | reservedTableName _ | storageColumnMissing _ | sessionMarkMissing _ =>
      some .invalidIdentifier
  | tooManyColumns _ _ => some .tooManyColumns
  | foreignColumn _ _ _ => some .invalidType
  | keysNotInColumns _ => some .primaryKeyNotInColumns
  | nullableKey _ => some .primaryKeyOnNullableColumn
  | noTemporaryTables _ | cascadeUnsupported _ => some .unsupportedOperation
  | nameNotText | noDatabases _ => none

/-- The family of a fault, unless it is misuse. Too many columns are a fault of the
columns; all else that is wrong with a request is a fault of the request. -/
def refusal? : RequestFault → Option Refusal
  | tooManyColumns _ _ => some .columns
  | invalidName _ _ | foreignColumn _ _ _ | keysNotInColumns _ | nullableKey _
  | reservedTableName _ | storageColumnMissing _ | sessionMarkMissing _ | noTemporaryTables _
  | cascadeUnsupported _ => some .request
  | nameNotText | noDatabases _ => none

end RequestFault

/-- The faults of a name: none, or that it is not admitted. -/
def Dialect.nameFaults (dialect : Dialect) (kind : ObjectKind) (name : String) :
    List RequestFault :=
  if dialect.acceptsName kind name then [] else [.invalidName kind name]

end Warehouse
