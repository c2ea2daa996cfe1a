/-! # Error codes

Every refusal of the library belongs to a family and carries one of these codes, by
which a caller can tell the causes apart without reading the message. -/

namespace Warehouse

/-- The cause of a refusal, coarse enough to be stable. -/
inductive ErrorCode where
  | invalidIdentifier
  | primaryKeyNotInColumns
  | primaryKeyOnNullableColumn
  | tooManyColumns
  | duplicateColumnName
  | invalidType
  | invalidTableDistribution
  | invalidTableIndex
  | tableNotExists
  | unsupportedOperation
deriving DecidableEq, Repr

/-- The text of a code. -/
def ErrorCode.text : ErrorCode → String
  | invalidIdentifier => "invalidIdentifier"
  | primaryKeyNotInColumns => "primaryKeyNotInColumns"
  | primaryKeyOnNullableColumn => "primaryKeyOnNullableColumn"
  | tooManyColumns => "tooManyColumns"
  | duplicateColumnName => "duplicateColumnName"
  | invalidType => "invalidType"
  | invalidTableDistribution => "invalidTableDistribution"
  | invalidTableIndex => "invalidTableIndex"
  | tableNotExists => "tableNotExists"
  | unsupportedOperation => "unsupportedOperation"

/-- The families of refusals, which a caller can tell apart before looking at a code. -/
inductive Refusal where
  | type
  | columns
  | request
  | catalog
  | missingTable
deriving DecidableEq, Repr

end Warehouse
