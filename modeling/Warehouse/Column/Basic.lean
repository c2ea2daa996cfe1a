import Warehouse.Column.Name
import Warehouse.Datatype.Definition
import Warehouse.Sql

/-! # Columns

A column is a name with a column type. Names are not checked here beyond being
there at all, since a column may serve as a helper that never reaches a
statement; requests check the names that they write, and refuse those that are
not even texts. -/

namespace Warehouse

/-- How a column was declared: by itself, or through the declaration bound to
one dialect. Columns declared differently are different, even where everything
else agrees. -/
inductive ColumnKind where
  | plain
  | bound (dialect : Dialect)
deriving DecidableEq, Repr

/-- The dialect that a declaration supplies when none is given. -/
def ColumnKind.dialect? : ColumnKind → Option Dialect
  | plain => none
  | bound dialect => some dialect

/-- A column of a table. -/
structure Column where
  kind : ColumnKind
  name : Value
  definition : Definition
  named : name.isVoid = false
deriving DecidableEq

namespace Column

/-- A column with the given name, unless it is no name. -/
def make? (kind : ColumnKind) (name : Value) (definition : Definition) : Option Column :=
  if named : name.isVoid = false then some ⟨kind, name, definition, named⟩ else none

/-- The dialect of a column is that of its type. -/
def dialect (column : Column) : Dialect := column.definition.dialect

/-- The name with the text of the type, by which a column is shown. -/
def canonical (column : Column) : Value × String := (column.name, column.definition.sql)

/-- The name as it is compared with the text of the type, by which column lists are
compared. -/
def key (column : Column) : Value × String := (column.name.comparable, column.definition.sql)

/-- The column as it stands in a statement. -/
def sql (column : Column) : Sql :=
  [.name column.name.wording, .plain (" " ++ column.definition.sql)]

/-- The text of a column in its own dialect. -/
def text (column : Column) : String := Sql.text column.dialect column.sql

/-- The two columns are the same: declared in the same way, with the same name and
type. -/
def sameAs (first second : Column) : Bool :=
  first.kind = second.kind && first.name.comparable = second.name.comparable &&
    first.definition = second.definition

end Column

end Warehouse
