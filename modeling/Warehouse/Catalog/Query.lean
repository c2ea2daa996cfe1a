import Warehouse.Column.Named
import Warehouse.Dialogue
import Warehouse.Sql

/-! # Queries

A query is a statement together with the way its rows are read. The engines
differ in their queries; how a query is put to a connection is the same for all
of them. -/

namespace Warehouse

/-- A statement and the reading of the rows that answer it. -/
structure Query (α : Type) where
  sql : Sql
  read : List Row → Except Failure α

/-- The identification of a table in a catalog, where the catalog has one. -/
abbrev ObjectId := Option String

/-- The names under a column of the rows, null where there is none. -/
def namesUnder (key : String) (rows : List Row) : Except CellFault (List Value) :=
  rows.mapM fun row => (row.text? key).map Value.ofText?

/-- A length given in bytes as the number of characters of two bytes each. -/
def halved : Option Int → Except CellFault Int
  | none => .error .absentNumber
  | some bytes => .ok (Int.fdiv bytes 2)

end Warehouse
