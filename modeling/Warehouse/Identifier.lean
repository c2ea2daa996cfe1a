import Warehouse.Dialect
import Warehouse.Text.Blank

/-! # Names that may enter a statement

A request may only name objects by letters, digits, underscores and dashes of
ASCII. A Synapse table name may carry one leading hash, which marks a table of
the session. One line feed at the very end of a name is overlooked by the check
and stays in the name. -/

namespace Warehouse

/-- The kind of object that a name denotes. -/
inductive ObjectKind where
  | table
  | schema
  | column
  | other (noun : String)
deriving DecidableEq, Repr

namespace ObjectKind

/-- The word for a kind in messages. -/
def noun : ObjectKind → String
  | table => "table"
  | schema => "schema"
  | column => "column"
  | other noun => noun

/-- The kind that a word denotes. -/
def ofNoun (noun : String) : ObjectKind :=
  if noun = "table" then table
  else if noun = "schema" then schema
  else if noun = "column" then column
  else other noun

end ObjectKind

/-- A letter, a digit, an underscore or a dash of ASCII. -/
def isNameChar (c : Char) : Bool := c.isAlphanum || c == '_' || c == '-'

/-- One or more name characters. -/
def isPlainName (chars : List Char) : Bool := !chars.isEmpty && chars.all isNameChar

namespace Dialect

/-- The characters of a name that have to be name characters: a leading hash of
a Synapse table name is not among them. -/
def nameBody (dialect : Dialect) (kind : ObjectKind) (chars : List Char) : List Char :=
  match chars with
  | '#' :: rest => if dialect = synapse ∧ kind = .table then rest else chars
  | _ => chars

/-- The dialect admits the name for an object of the kind. -/
def acceptsName (dialect : Dialect) (kind : ObjectKind) (name : String) : Bool :=
  isPlainName (dialect.nameBody kind (Text.withoutFinalBreak name.toList))

end Dialect

/-- A Synapse table name that marks a table of the session. -/
def hasSessionMark (table : String) : Bool := table.toList.head? == some '#'

end Warehouse
