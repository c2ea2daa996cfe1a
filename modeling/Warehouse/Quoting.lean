import Warehouse.Dialect

/-! # Quoted names and literals

A name is written between the two marks of its quoting style with the closing
mark doubled inside; a string literal is written between single quotes with the
quote doubled inside, and where the backslash escapes characters in literals it
is doubled as well. A quoting style belongs to a dialect tag: only the tag of
Synapse has brackets, and only the tag of Snowflake escapes by backslash; every
other tag has the double quotes of standard SQL. -/

namespace Warehouse

/-- Every occurrence of the mark written twice. -/
def doubleMark (mark : Char) (chars : List Char) : List Char :=
  chars.flatMap fun c => if c = mark then [mark, mark] else [c]

/-- Every pair of marks, read from the left, written once. -/
def undoubleMark (mark : Char) : List Char → List Char
  | first :: second :: rest =>
      if first = mark ∧ second = mark then mark :: undoubleMark mark rest
      else first :: undoubleMark mark (second :: rest)
  | chars => chars

/-- The marks around names and the escapes inside literals. -/
structure QuoteStyle where
  opening : Char
  closing : Char
  escapesBackslash : Bool
deriving DecidableEq, Repr

namespace QuoteStyle

/-- The quoting style of a dialect tag, compared as it stands. -/
def named (tag : String) : QuoteStyle where
  opening := if tag = "synapse" then '[' else '"'
  closing := if tag = "synapse" then ']' else '"'
  escapesBackslash := tag = "snowflake"

/-- A name between marks. -/
def quoteName (style : QuoteStyle) (name : String) : String :=
  String.ofList (style.opening :: doubleMark style.closing name.toList ++ [style.closing])

/-- The name between marks, if the text has a mark at either end. Inside, every
pair of closing marks counts as one. -/
def unquoteName? (style : QuoteStyle) (quoted : String) : Option String :=
  match quoted.toList with
  | first :: second :: rest =>
      let inner := second :: rest
      if first = style.opening ∧ inner.getLast? = some style.closing then
        some (String.ofList (undoubleMark style.closing inner.dropLast))
      else none
  | _ => none

/-- A string literal. -/
def quoteLiteral (style : QuoteStyle) (value : String) : String :=
  let escaped := if style.escapesBackslash then doubleMark '\\' value.toList else value.toList
  String.ofList ('\'' :: doubleMark '\'' escaped ++ ['\''])

/-- A table name, with its schema in front unless that is empty. -/
def qualify (style : QuoteStyle) (schema table : String) : String :=
  if schema = "" then style.quoteName table
  else style.quoteName schema ++ "." ++ style.quoteName table

end QuoteStyle

/-- The quoting style of a dialect. -/
def Dialect.quoteStyle (dialect : Dialect) : QuoteStyle := QuoteStyle.named dialect.name

end Warehouse
