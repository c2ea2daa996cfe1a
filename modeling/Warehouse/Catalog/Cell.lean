import Warehouse.Text.Case
import Warehouse.Text.Numeral
import Warehouse.Value

/-! # Cells

A driver may deliver the same cell as a number or as its text, padded or not, and
a truth value as a flag, a number or a word. The readings below depend only on
the text of a cell, apart from flags, which are truth values already. -/

namespace Warehouse

/-- What can be wrong with the rows of a catalog. -/
inductive CellFault where
  | noRow
  | noSuchColumn (key : String)
  | absentText
  | absentName
  | absentNumber
  | overlongNumber
  | notDecimal
  | infinite
  | undefined
  | notInteger
deriving DecidableEq, Repr

namespace Value

/-- The text of a value. A number with too many digits has none. -/
def asText (value : Value) : Except CellFault String :=
  match value.asText? with
  | some written => .ok written
  | none => .error .overlongNumber

/-- The text of a cell that is there; the null value has none. -/
def text? : Value → Except CellFault (Option String)
  | null => .ok none
  | cell => cell.asText.map some

/-- The text of a cell without the padding around it; the null value has none. -/
def trimmed? (cell : Value) : Except CellFault (Option String) :=
  cell.text?.map (Option.map Text.trim)

/-- The text of a cell that has to be there. -/
def trimmed (cell : Value) : Except CellFault String := do
  match ← cell.trimmed? with
  | some found => return found
  | none => throw .absentText

/-- The integer that a decimal numeral denotes when the digits behind its point
are dropped. -/
def integerOfText (numeral : String) : Except CellFault Int :=
  match Text.Decimal.ofText? numeral with
  | some (.finite negative digits exponent) =>
      .ok (Text.Decimal.truncated negative digits exponent)
  | some .infinite => .error .infinite
  | some .undefined => .error .undefined
  | none => .error .notDecimal

/-- The integer in a cell; the null value has none. -/
def integer? (cell : Value) : Except CellFault (Option Int) := do
  match ← cell.trimmed? with
  | none => return none
  | some numeral => (integerOfText numeral).map some

/-- The words for true, in capitals. -/
def trueWords : List String := ["1", "Y", "YES", "T", "TRUE"]

/-- The truth value in a cell. What is not recognised as true is false. -/
def isTrue : Value → Except CellFault Bool
  | flag value => .ok value
  | cell => cell.trimmed?.map (Option.any fun word => trueWords.contains (Text.upper word))

end Value

end Warehouse
