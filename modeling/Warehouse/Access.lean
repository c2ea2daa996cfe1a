import Warehouse.Column.Slice
import Warehouse.Failure

/-! # Looking things up

Questions that have an answer only for some arguments: the dialect of a tag, the text of
a column, the column of a name, the column at a position, the columns of a slice, the name
inside quotes, and whether a name is admitted. What has no answer is a failure here. -/

namespace Warehouse

/-- The dialect that a tag names. Values other than texts name a dialect through
their text. -/
def Dialect.ofTag (tag : Value) : Except Failure Dialect := do
  let word ← tag.asText
  match resolve? word with
  | some dialect => return dialect
  | none => throw (.usage (.unsupportedDialect word))

/-- The text of a column in its own dialect, which only a name that is a text can
stand in. -/
def Column.written (column : Column) : Except Failure String :=
  match column.name.word? with
  | some _ => .ok column.text
  | none => .error (.usage .unquotableName)

namespace Columns

/-- The column of a name that has to be there. -/
def get (columns : Columns) (name : Value) : Except Failure Column :=
  match columns.find? name with
  | some column => .ok column
  | none => .error (.usage (.noSuchColumn name))

/-- The column at a position that has to be there; negative positions count from
the end. -/
def getAt (columns : Columns) (position : Int) : Except Failure Column :=
  match columns.at? position with
  | some column => .ok column
  | none => .error (.usage .positionOutOfRange)

/-- The columns of a slice, whose step must not be zero. -/
def slice (columns : Columns) (slice : Slice) : Except Failure (List Column) :=
  match slice.pick? columns.toList with
  | some picked => .ok picked
  | none => .error (.usage .zeroStep)

end Columns

/-- The name inside the marks of a dialect tag. -/
def unquoteName (tag quoted : String) : Except Failure String :=
  match (QuoteStyle.named tag).unquoteName? quoted with
  | some name => .ok name
  | none => .error (.usage (.notQuoted quoted tag))

/-- Refuses a name that the dialect does not admit for objects of a kind. -/
def Dialect.checkName (dialect : Dialect) (kind : ObjectKind) (name : String) :
    Except Failure Unit :=
  if dialect.acceptsName kind name then .ok ()
  else .error (.request (.invalidName kind name))

end Warehouse
