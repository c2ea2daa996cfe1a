import Warehouse.Quoting

/-! # Statements as pieces

A statement is kept as a list of pieces until its text is needed: fixed text,
quoted names and string literals. Names and values that come from outside enter
a statement only as pieces of the last two kinds, so quoting is applied in one
place and cannot be forgotten. -/

namespace Warehouse

/-- A piece of a statement. -/
inductive Piece where
  | plain (fixed : String)
  | name (identifier : String)
  | literal (value : String)
deriving DecidableEq, Repr

instance : Coe String Piece := ⟨Piece.plain⟩

/-- A statement, or a part of one. -/
abbrev Sql := List Piece

/-- The text of a piece in a quoting style. -/
def Piece.text (style : QuoteStyle) : Piece → String
  | .plain fixed => fixed
  | .name identifier => style.quoteName identifier
  | .literal value => style.quoteLiteral value

namespace Sql

/-- The text of a statement in a quoting style. -/
def textIn (style : QuoteStyle) : Sql → String
  | [] => ""
  | piece :: rest => piece.text style ++ textIn style rest

/-- The text of a statement of a dialect. -/
def text (dialect : Dialect) (sql : Sql) : String := textIn dialect.quoteStyle sql

/-- A table name, with its schema in front unless that is empty. -/
def qualified (schema table : String) : Sql :=
  if schema = "" then [.name table] else [.name schema, ".", .name table]

/-- Quoted names with a separator between them. -/
def names (separator : String) (columns : List String) : Sql :=
  (columns.map Piece.name).intersperse (.plain separator)

@[simp] theorem textIn_nil (style : QuoteStyle) : textIn style [] = "" := rfl

@[simp] theorem textIn_cons (style : QuoteStyle) (piece : Piece) (rest : Sql) :
    textIn style (piece :: rest) = piece.text style ++ textIn style rest := rfl

@[simp] theorem textIn_append (style : QuoteStyle) (first second : Sql) :
    textIn style (first ++ second) = textIn style first ++ textIn style second := by
  induction first with
  | nil => simp
  | cons piece rest ih => simp [ih, String.append_assoc]

end Sql

end Warehouse
