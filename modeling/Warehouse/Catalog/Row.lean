import Warehouse.Catalog.Cell
import Warehouse.Fields

/-! # Catalog rows

A row is looked up by column name. Engines and drivers disagree on the letter
case of column names, so the exact name is tried first and after it the first
name that agrees in small letters. -/

namespace Warehouse

/-- A row of a catalog, as named cells in order. -/
abbrev Row := Fields

namespace Row

/-- The cell under a column name. -/
def cell? (row : Row) (key : String) : Option Value :=
  match row.find? key with
  | some value => some value
  | none => (List.find? (Text.lower ·.1 = Text.lower key) row).map Prod.snd

/-- The cell under a column name that has to be there. -/
def cell (row : Row) (key : String) : Except CellFault Value :=
  match row.cell? key with
  | some value => .ok value
  | none => .error (.noSuchColumn key)

/-- The text under a column name, without padding; a null cell has none. -/
def text? (row : Row) (key : String) : Except CellFault (Option String) :=
  row.cell key >>= Value.trimmed?

/-- The text under a column name, which must not be null. -/
def text (row : Row) (key : String) : Except CellFault String :=
  row.cell key >>= Value.trimmed

/-- The integer under a column name; a null cell has none. -/
def integer? (row : Row) (key : String) : Except CellFault (Option Int) :=
  row.cell key >>= Value.integer?

/-- The integer under a column name as a text, which is a word for a null cell. -/
def numeral (row : Row) (key : String) : Except CellFault String := do
  (Value.ofNumber? (← row.integer? key)).asText

/-- The truth value under a column name. -/
def flag (row : Row) (key : String) : Except CellFault Bool :=
  row.cell key >>= Value.isTrue

end Row

/-- The first row of an answer that has to have one. -/
def firstRow (rows : List Row) : Except CellFault Row :=
  match rows with
  | [] => .error .noRow
  | row :: _ => .ok row

end Warehouse
