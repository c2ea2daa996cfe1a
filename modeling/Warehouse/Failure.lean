import Warehouse.Catalog.Cell
import Warehouse.Catalog.Fault
import Warehouse.Datatype.Definition
import Warehouse.Request.Fault

/-! # Failures

Everything that can end an operation without a result. A failure has a code where
callers are meant to tell causes apart, and a message where there is more to say
than its kind. -/

namespace Warehouse

/-- What can be wrong with an argument of a call. -/
inductive UsageFault where
  | emptyColumnName
  | unsupportedDialect (given : String)
  | notQuoted (text : String) (dialect : String)
  | dialectMissing
  | noSuchColumn (name : Value)
  | positionOutOfRange
  | zeroStep
  | unquotableName
  | unknownHome
deriving DecidableEq

/-- The message for a fault, where it has one. -/
def UsageFault.message? : UsageFault → Option String
  | emptyColumnName => some "Column name must not be empty"
  | unsupportedDialect given =>
      some ("Unsupported dialect: " ++ given ++ ". Supported: " ++
        ", ".intercalate (Dialect.all.map Dialect.name))
  | notQuoted text dialect =>
      some ("Identifier " ++ text ++ " is not quoted for dialect " ++ dialect)
  | noSuchColumn name => name.asText?
  | dialectMissing | positionOutOfRange | zeroStep | unquotableName | unknownHome => none

/-- What is wrong with one field of the settings: its name, a word for the kind of
fault, and a message. -/
structure SettingsFault where
  field : String
  kind : String
  message : String
deriving DecidableEq, Repr

/-- The message for a fault of a cell. Only the missing column is named. -/
def CellFault.message? : CellFault → Option String
  | noSuchColumn key => some key
  | _ => none

/-- What can end an operation. -/
inductive Failure where
  | type (fault : TypeFault)
  | table (fault : TableFault)
  | request (fault : RequestFault)
  | catalog (fault : CatalogFault)
  | cell (fault : CellFault)
  | usage (fault : UsageFault)
  | settings (faults : List SettingsFault)
  | connection (message : String)
  | logging (message : String)
deriving DecidableEq

namespace Failure

/-- The code of a failure, where it has one. -/
def code? : Failure → Option ErrorCode
  | type fault => fault.code?
  | table fault => fault.code?
  | request fault => fault.code?
  | catalog fault => some fault.code
  | cell _ | usage _ | settings _ | connection _ | logging _ => none

/-- The family of a failure that is a refusal. -/
def refusal? : Failure → Option Refusal
  | type fault => fault.refusal?
  | table fault => fault.refusal?
  | request fault => fault.refusal?
  | catalog fault => some fault.refusal
  | cell _ | usage _ | settings _ | connection _ | logging _ => none

/-- The message of a failure, where it has one. -/
def message? : Failure → Option String
  | type fault => fault.message?
  | table fault => fault.message?
  | request fault => fault.message?
  | catalog fault => some fault.message
  | cell fault => fault.message?
  | usage fault => fault.message?
  | settings _ => none
  | connection message | logging message => some message

end Failure

/-! ## Faults as failures

A computation that can only fail in one way takes part in one that can fail in
any. -/

instance : MonadLift (Except TypeFault) (Except Failure) := ⟨Except.mapError .type⟩

instance : MonadLift (Except TableFault) (Except Failure) := ⟨Except.mapError .table⟩

instance : MonadLift (Except RequestFault) (Except Failure) := ⟨Except.mapError .request⟩

instance : MonadLift (Except CellFault) (Except Failure) := ⟨Except.mapError .cell⟩

end Warehouse
