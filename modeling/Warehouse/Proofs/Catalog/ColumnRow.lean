import Warehouse.Catalog.Table
import Warehouse.Proofs.Datatype.Making

/-! # Rows that describe columns

Each dialect reads the rows about the columns of a table one by one (`Catalog.read_columnsQuery`),
a column from the cells of its row and nothing else. One of these cells says whether the column
allows null; how the others are read does not depend on it. -/

namespace Warehouse

open Warehouse.Computation

/-! ## Cells that are found -/

theorem Value.trimmed_eq_ok_iff {cell : Value} {text : String} :
    cell.trimmed = .ok text ↔ cell.trimmed? = .ok (some text) := by
  unfold trimmed
  rcases cell.trimmed? with fault | _ | found <;> simp [bind, Except.bind, pure, Except.pure, throw,
    throwThe, MonadExceptOf.throw]

namespace Row

variable {row : Row} {key : String}

theorem text?_of_text {text : String} (found : row.text key = .ok text) :
    row.text? key = .ok (some text) := by
  obtain ⟨cell, named, trimmed⟩ := bind_eq_ok_iff.mp found
  exact bind_eq_ok_iff.mpr ⟨cell, named, Value.trimmed_eq_ok_iff.mp trimmed⟩

theorem exists_cell (present : (row.cell? key).isSome = true) :
    ∃ cell, row.cell key = .ok cell := by
  obtain ⟨cell, found⟩ := Option.isSome_iff_exists.mp present
  exact ⟨cell, by rw [Row.cell, found]⟩

variable {cell : Value} (found : row.cell key = .ok cell)

include found

theorem text?_of_cell : row.text? key = cell.trimmed? := by
  rw [text?, found]
  rfl

theorem flag_of_cell : row.flag key = cell.isTrue := by
  rw [flag, found]
  rfl

end Row

/-! ## Rows that agree -/

/-- The two rows have the same cells under the names. -/
def Row.AgreeOn (keys : List String) (row other : Row) : Prop :=
  ∀ key ∈ keys, row.cell key = other.cell key

namespace Row.AgreeOn

variable {keys fewer : List String} {row other : Row} (same : row.AgreeOn keys other)

include same

theorem mono (kept : fewer ⊆ keys) : row.AgreeOn fewer other := fun key listed =>
  same key (kept listed)

variable (key : String) (listed : key ∈ keys)

include listed

theorem text_eq : row.text key = other.text key := by
  rw [text, text, same key listed]

theorem text?_eq : row.text? key = other.text? key := by
  rw [text?, text?, same key listed]

theorem integer?_eq : row.integer? key = other.integer? key := by
  rw [integer?, integer?, same key listed]

theorem numeral_eq : row.numeral key = other.numeral key := by
  rw [numeral, numeral, same.integer?_eq key listed]

theorem flag_eq : row.flag key = other.flag key := by
  rw [flag, flag, same key listed]

end Row.AgreeOn

/-! ## Cells of a column -/

namespace Catalog

/-- The name of the cell that says whether a column allows null. -/
def nullabilityCell : Dialect → String
  | .synapse => "is_nullable"
  | .teradata => "Nullable"
  | .exasol => "COLUMN_IS_NULLABLE"
  | .snowflake => "null?"

/-- The names of the other cells that a column is read from. -/
def remainingCells : Dialect → List String
  | .synapse => ["type_name", "default_value", "column_name", "max_length", "precision", "scale"]
  | .teradata => ["ColumnType", "CharType", "DefaultValue", "ColumnName", "ColumnLength",
      "DecimalTotalDigits", "DecimalFractionalDigits"]
  | .exasol => ["COLUMN_TYPE", "COLUMN_DEFAULT", "COLUMN_NAME"]
  | .snowflake => ["kind", "type", "default", "name"]

theorem Synapse.length_eq_of_agreeOn {row other : Row}
    (same : row.AgreeOn ["max_length", "precision", "scale"] other) (type : String) :
    length type row = length type other := by
  have size := same.integer?_eq "max_length" (by simp)
  have precision := same.numeral_eq "precision" (by simp)
  have scale := same.integer?_eq "scale" (by simp)
  have places := same.numeral_eq "scale" (by simp)
  simp only [length, size, precision, scale, places]

theorem Teradata.length_eq_of_agreeOn {row other : Row}
    (same : row.AgreeOn ["ColumnLength", "DecimalTotalDigits", "DecimalFractionalDigits"] other)
    (code : String) (number : Option Int) : length code number row = length code number other := by
  have size := same.integer?_eq "ColumnLength" (by simp)
  have bytes := same.numeral_eq "ColumnLength" (by simp)
  have total := same.numeral_eq "DecimalTotalDigits" (by simp)
  have fractional := same.numeral_eq "DecimalFractionalDigits" (by simp)
  simp only [length, size, bytes, total, fractional]

/-! ## Columns -/

theorem Snowflake.column?_eq_some_iff {row : Row} {made : Column} :
    column? row = .ok (some made) ↔ describesColumn row = .ok true ∧ column row = .ok made := by
  simp only [column?, bind_eq_ok_iff, lift_cell_eq_ok_iff]
  constructor
  · intro ⟨describes, counts, read⟩
    cases describes with
    | true =>
        obtain ⟨column, read, same⟩ := bind_pure_eq_ok_iff.mp read
        exact ⟨counts, Option.some.inj same ▸ read⟩
    | false => cases Except.ok.inj read
  · intro ⟨counts, read⟩
    exact ⟨true, counts, bind_pure_eq_ok_iff.mpr ⟨made, read, rfl⟩⟩

/-- The column that a row describes. In Snowflake a row may describe something else. -/
def columnOfRow (dialect : Dialect) (name : TableName) (row : Row) :
    Except Failure (Option Column) :=
  match dialect with
  | .synapse => some <$> Synapse.column row
  | .teradata => some <$> Teradata.column name row
  | .exasol => some <$> Exasol.column row
  | .snowflake => Snowflake.column? row

/-- The rows about columns are read one by one, and those that describe none are passed over. -/
theorem read_columnsQuery {dialect : Dialect} {name : TableName} {object : ObjectId}
    {query : Query (List Column)} (asked : columnsQuery dialect name object = .ok query)
    (rows : List Row) :
    query.read rows = do return (← rows.mapM (columnOfRow dialect name)).filterMap id := by
  cases dialect with
  | synapse =>
      obtain ⟨number, -, rfl⟩ := bind_pure_eq_ok_iff.mp asked
      exact (mapM_some_filterMap _ rows).symm
  | teradata | exasol =>
      cases asked
      exact (mapM_some_filterMap _ rows).symm
  | snowflake =>
      cases asked
      rfl

/-- Behind rows that are read, the first row that cannot be read ends the reading. -/
theorem read_eq_error_of_first {dialect : Dialect} {name : TableName} {object : ObjectId}
    {query : Query (List Column)} (asked : columnsQuery dialect name object = .ok query)
    {before after : List Row} {row : Row} {failure : Failure}
    (fine : ∀ earlier ∈ before, ∃ column, columnOfRow dialect name earlier = .ok column)
    (fails : columnOfRow dialect name row = .error failure) :
    query.read (before ++ row :: after) = .error failure := by
  rw [read_columnsQuery asked, mapM_eq_error_of_first fine fails]
  rfl

end Catalog

end Warehouse
