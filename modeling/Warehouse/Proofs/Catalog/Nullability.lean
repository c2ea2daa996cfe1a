import Warehouse.Proofs.Catalog.ColumnRow
import Warehouse.Proofs.Text.Numeral

/-! # Columns that allow null

Drivers spell a truth value as a flag, as a number or as a word. Whatever the cell for null
holds, it decides about null and about nothing else (`Catalog.columnOfRow_withNullable`). Three
dialects understand every spelling; Snowflake compares the cell with the word that its reports
are written with, so it takes every other word, number or flag for a refusal of null
(`Catalog.columnOfRow_of_spelled`). -/

namespace Warehouse

open Warehouse.Computation

/-! ## Spellings of a truth value -/

namespace Value

/-- The words for false, in capitals. -/
def falseWords : List String := ["0", "N", "NO", "F", "FALSE"]

/-- The cell spells the truth value: as a flag, as a number, or as a word in any letter case and
with blanks around it. -/
inductive SpellsFlag (value : Bool) : Value → Prop where
  | flag : SpellsFlag value (flag value)
  | number : SpellsFlag value (number (if value then 1 else 0))
  | word {written : String}
      (known : Text.upper (Text.trim written) ∈ if value then trueWords else falseWords) :
      SpellsFlag value (text written)

theorem not_mem_trueWords {word : String} (known : word ∈ falseWords) : word ∉ trueWords := by
  have all : ∀ word ∈ falseWords, word ∉ trueWords := by decide
  exact all word known

theorem SpellsFlag.isTrue_eq {value : Bool} {cell : Value} (spells : cell.SpellsFlag value) :
    cell.isTrue = .ok value := by
  cases spells with
  | flag => rfl
  | number => cases value <;> decide
  | @word written known =>
      have told : (text written).trimmed? = .ok (some (Text.trim written)) := rfl
      simp only [isTrue, told, Except.map, Option.any_some]
      cases value with
      | true => exact congrArg Except.ok (List.contains_iff_mem.mpr known)
      | false =>
          refine congrArg Except.ok (Bool.eq_false_iff.mpr fun found => ?_)
          exact not_mem_trueWords known (List.contains_iff_mem.mp found)

/-- Only the word itself is found to be the word that stands for true in reports. -/
theorem SpellsFlag.exists_word {value : Bool} {cell : Value} (spells : cell.SpellsFlag value) :
    ∃ word, cell.trimmed? = .ok (some word) ∧
      (Catalog.Snowflake.wordOr "Y" (some word) = "Y" ↔ value = true ∧ Text.upper word = "Y") := by
  cases spells with
  | flag => cases value <;> exact ⟨_, rfl, by decide⟩
  | number => cases value <;> exact ⟨_, rfl, by decide⟩
  | @word written known =>
      refine ⟨Text.trim written, rfl, ?_⟩
      have present : Text.trim written ≠ "" := by
        intro blank
        rw [blank] at known
        revert known
        cases value <;> decide
      rw [Catalog.Snowflake.wordOr, if_neg present]
      cases value with
      | true => simp only [true_and]
      | false =>
          have other : Text.upper (Text.trim written) ≠ "Y" := by
            intro yes
            rw [yes] at known
            exact absurd known (by decide)
          simp only [other, Bool.false_eq_true, false_and]

end Value

/-! ## Column types with and without null -/

/-- The column type, with null or without it. -/
def Definition.withNullable (allowed : Bool) (definition : Definition) : Definition :=
  { definition with nullable := allowed }

/-- The column, with null or without it. -/
def Column.withNullable (allowed : Bool) (column : Column) : Column :=
  { column with definition := column.definition.withNullable allowed }

theorem Definition.make_withNullable {dialect : Dialect} {type : String} {length : Value}
    {nullable : Bool} {default characterSet : Option String} {definition : Definition}
    (made : make dialect { type, length, nullable, default, characterSet } = .ok definition)
    (allowed : Bool) :
    make dialect { type, length, nullable := allowed, default, characterSet } =
      .ok (definition.withNullable allowed) := by
  obtain ⟨own, named, measured, -, standard, set⟩ := make_eq_ok_iff.mp made
  exact make_eq_ok_iff.mpr ⟨own, named, measured, rfl, standard, set⟩

theorem Column.ofName_withNullable {kind : ColumnKind} {name : Value} {definition : Definition}
    {column : Column} (made : ofName kind name definition = .ok column) (allowed : Bool) :
    ofName kind name (definition.withNullable allowed) = .ok (column.withNullable allowed) := by
  obtain ⟨rfl, rfl, rfl⟩ := ofName_eq_ok_iff.mp made
  exact ofName_eq_ok_iff.mpr ⟨rfl, rfl, rfl⟩

/-- Where a column type does not allow null, this is written at one place and nothing else
changes. -/
theorem Definition.sql_withNullable (definition : Definition) :
    ∃ front back, ∀ allowed, (definition.withNullable allowed).sql =
      front ++ (if allowed then "" else " NOT NULL") ++ back := by
  cases own : definition.dialect with
  | exasol =>
      refine ⟨definition.type ++ definition.lengthSql ++ definition.defaultSql,
        definition.characterSetSql, fun allowed => ?_⟩
      simp [sql, withNullable, nullSql, lengthSql, defaultSql, characterSetSql, own,
        String.append_assoc]
  | synapse | teradata | snowflake =>
      refine ⟨definition.type ++ definition.lengthSql,
        definition.defaultSql ++ definition.characterSetSql, fun allowed => ?_⟩
      simp [sql, withNullable, nullSql, lengthSql, defaultSql, characterSetSql, own,
        String.append_assoc]

/-! ## Rows -/

namespace Catalog

/-- The cell for null, read as the dialect reads it. -/
def allowsNull (dialect : Dialect) (cell : Value) : Except CellFault Bool :=
  match dialect with
  | .snowflake => cell.trimmed?.map fun word => Snowflake.wordOr "Y" word = "Y"
  | _ => cell.isTrue

variable {row plain : Row} {made : Column} {allowed : Bool}

theorem Synapse.column_withNullable (same : row.AgreeOn (remainingCells .synapse) plain)
    (told : row.flag "is_nullable" = .ok allowed) (read : column plain = .ok made) :
    column row = .ok (made.withNullable allowed) := by
  have type := same.text_eq "type_name" (by simp [remainingCells])
  have default := same "default_value" (by simp [remainingCells])
  have name := same.text?_eq "column_name" (by simp [remainingCells])
  have length := length_eq_of_agreeOn (same.mono (by simp [remainingCells]))
  simp only [column, type, default, name, length, told, bind_eq_ok_iff, lift_cell_eq_ok_iff,
    lift_type_eq_ok_iff] at read ⊢
  obtain ⟨written, typeCell, stored, defaultCell, given, nameCell, measured, lengthCells, _, -,
    expression, shown, definition, specified, named⟩ := read
  exact ⟨written, typeCell, stored, defaultCell, given, nameCell, measured, lengthCells, allowed,
    rfl, expression, shown, _, Definition.make_withNullable specified allowed,
    Column.ofName_withNullable named allowed⟩

theorem Teradata.column_withNullable {name : TableName}
    (same : row.AgreeOn (remainingCells .teradata) plain) (told : row.flag "Nullable" = .ok allowed)
    (read : column name plain = .ok made) :
    column name row = .ok (made.withNullable allowed) := by
  have type := same.text?_eq "ColumnType" (by simp [remainingCells])
  have set := same.integer?_eq "CharType" (by simp [remainingCells])
  have default := same "DefaultValue" (by simp [remainingCells])
  have columnName := same.text?_eq "ColumnName" (by simp [remainingCells])
  have length := length_eq_of_agreeOn (same.mono (by simp [remainingCells]))
  simp only [column, type, set, default, columnName, length, told, bind_eq_ok_iff,
    lift_cell_eq_ok_iff, lift_type_eq_ok_iff] at read ⊢
  obtain ⟨code, typeCell, known, found, number, setCell, stored, defaultCell, given, nameCell,
    measured, lengthCells, _, -, expression, shown, definition, specified, named⟩ := read
  exact ⟨code, typeCell, known, found, number, setCell, stored, defaultCell, given, nameCell,
    measured, lengthCells, allowed, rfl, expression, shown, _,
    Definition.make_withNullable specified allowed, Column.ofName_withNullable named allowed⟩

theorem Exasol.column_withNullable (same : row.AgreeOn (remainingCells .exasol) plain)
    (told : row.flag "COLUMN_IS_NULLABLE" = .ok allowed) (read : column plain = .ok made) :
    column row = .ok (made.withNullable allowed) := by
  have type := same "COLUMN_TYPE" (by simp [remainingCells])
  have default := same "COLUMN_DEFAULT" (by simp [remainingCells])
  have name := same.text?_eq "COLUMN_NAME" (by simp [remainingCells])
  simp only [column, type, default, name, told, bind_eq_ok_iff, lift_cell_eq_ok_iff,
    lift_type_eq_ok_iff] at read ⊢
  obtain ⟨cell, typeCell, written, known, stored, defaultCell, given, nameCell, _, -, expression,
    shown, definition, specified, named⟩ := read
  exact ⟨cell, typeCell, written, known, stored, defaultCell, given, nameCell, allowed, rfl,
    expression, shown, _, Definition.make_withNullable specified allowed,
    Column.ofName_withNullable named allowed⟩

theorem Snowflake.column_withNullable (same : row.AgreeOn (remainingCells .snowflake) plain)
    {word : Option String} (told : row.text? "null?" = .ok word) (read : column plain = .ok made) :
    column row = .ok (made.withNullable (wordOr "Y" word = "Y")) := by
  have type := same.text_eq "type" (by simp [remainingCells])
  have default := same "default" (by simp [remainingCells])
  have name := same "name" (by simp [remainingCells])
  simp only [column, type, default, name, told, bind_eq_ok_iff, lift_cell_eq_ok_iff,
    lift_type_eq_ok_iff] at read ⊢
  obtain ⟨written, typeCell, stored, defaultCell, given, nameCell, _, -, expression, shown,
    definition, specified, named⟩ := read
  exact ⟨written, typeCell, stored, defaultCell, given, nameCell, word, rfl, expression, shown, _,
    Definition.make_withNullable specified _, Column.ofName_withNullable named _⟩

/-- **What the cell for null decides.** Two rows that agree in all other cells are read as the
same column, apart from null, which the cell for null decides. -/
theorem columnOfRow_withNullable {dialect : Dialect} {name : TableName} {cell : Value}
    (same : row.AgreeOn (remainingCells dialect) plain)
    (told : row.cell (nullabilityCell dialect) = .ok cell)
    (decides : allowsNull dialect cell = .ok allowed)
    (read : columnOfRow dialect name plain = .ok (some made)) :
    columnOfRow dialect name row = .ok (some (made.withNullable allowed)) := by
  have flag := Row.flag_of_cell told
  cases dialect with
  | synapse =>
      obtain ⟨column, read, made⟩ := map_eq_ok_iff.mp read
      cases made
      exact congrArg (some <$> ·) (Synapse.column_withNullable same (flag.trans decides) read)
  | teradata =>
      obtain ⟨column, read, made⟩ := map_eq_ok_iff.mp read
      cases made
      exact congrArg (some <$> ·) (Teradata.column_withNullable same (flag.trans decides) read)
  | exasol =>
      obtain ⟨column, read, made⟩ := map_eq_ok_iff.mp read
      cases made
      exact congrArg (some <$> ·) (Exasol.column_withNullable same (flag.trans decides) read)
  | snowflake =>
      obtain ⟨word, shown, rfl⟩ := map_eq_ok_iff.mp decides
      have shown := (Row.text?_of_cell told).trans shown
      have kind := same.text?_eq "kind" (by simp [remainingCells])
      obtain ⟨describes, read⟩ := Snowflake.column?_eq_some_iff.mp read
      apply Snowflake.column?_eq_some_iff.mpr
      refine ⟨?_, Snowflake.column_withNullable same shown read⟩
      rwa [Snowflake.describesColumn, kind]

theorem exists_allowsNull {dialect : Dialect} {cell : Value} {value : Bool}
    (spells : cell.SpellsFlag value) :
    ∃ allowed, allowsNull dialect cell = .ok allowed ∧
      (allowed = true ↔ value = true ∧ (dialect = .snowflake →
        ∃ word, cell.trimmed? = .ok (some word) ∧ Text.upper word = "Y")) := by
  cases dialect with
  | snowflake =>
      obtain ⟨word, shown, counts⟩ := spells.exists_word
      refine ⟨_, map_eq_ok_iff.mpr ⟨some word, shown, rfl⟩, ?_⟩
      simp only [decide_eq_true_eq, counts, shown, Except.ok.injEq, Option.some.injEq,
        exists_eq_left', true_imp_iff]
  | synapse | teradata | exasol => exact ⟨value, spells.isTrue_eq, by simp⟩

/-- **How null is spelled.** A row whose other cells are those of a column is read as this
column, whichever spelling of a truth value it has in the cell for null. If false is spelled,
the column does not allow null, and this is written into its type. If true is spelled, the
column allows null, except in Snowflake, where only the word Y is understood. -/
theorem columnOfRow_of_spelled {dialect : Dialect} {name : TableName} {cell : Value} {value : Bool}
    (same : row.AgreeOn (remainingCells dialect) plain)
    (told : row.cell (nullabilityCell dialect) = .ok cell) (spells : cell.SpellsFlag value)
    (read : columnOfRow dialect name plain = .ok (some made)) :
    ∃ allowed, columnOfRow dialect name row = .ok (some (made.withNullable allowed)) ∧
      (allowed = true ↔ value = true ∧ (dialect = .snowflake →
        ∃ word, cell.trimmed? = .ok (some word) ∧ Text.upper word = "Y")) ∧
      ∃ front back, made.definition.sql =
          front ++ (if made.definition.nullable then "" else " NOT NULL") ++ back ∧
        (made.withNullable allowed).definition.sql =
          front ++ (if allowed then "" else " NOT NULL") ++ back := by
  obtain ⟨front, back, written⟩ := made.definition.sql_withNullable
  obtain ⟨allowed, decides, counts⟩ := exists_allowsNull spells
  exact ⟨allowed, columnOfRow_withNullable same told decides read, counts, front, back,
    written made.definition.nullable, written allowed⟩

/-- A Synapse column allows null, which a padded word says. -/
theorem columnOfRow_of_spelled_yes :
    let row : Row := [("column_name", .text "id"), ("type_name", .text "int"),
      ("max_length", .number 4), ("precision", .number 10), ("scale", .number 0),
      ("is_nullable", .text " Yes "), ("default_value", .null)]
    ∃ column, columnOfRow .synapse ⟨"s", "t"⟩ row = .ok (some column) ∧
      column.definition.nullable = true := by
  intro row
  let plain : Row := [("column_name", .text "id"), ("type_name", .text "int"),
    ("max_length", .number 4), ("precision", .number 10), ("scale", .number 0),
    ("is_nullable", .flag false), ("default_value", .null)]
  let id : Definition := {
    dialect := .synapse, type := "INT", length := none, nullable := false, default := none
    characterSet := none, type_mem := by decide, characterSet_isSome := rfl }
  have same : row.AgreeOn (remainingCells .synapse) plain := by
    unfold Row.AgreeOn
    decide
  have read : columnOfRow .synapse ⟨"s", "t"⟩ plain =
      .ok (some ⟨.plain, .text "id", id, rfl⟩) := by
    decide
  have spells : Value.SpellsFlag true (.text " Yes ") := .word (by decide)
  obtain ⟨allowed, found, tells, -⟩ :=
    columnOfRow_of_spelled same (by decide) spells read
  exact ⟨_, found, tells.mpr ⟨rfl, fun other => by cases other⟩⟩

/-- A Snowflake row whose flag for null is true is read as a column that does not allow null. -/
theorem not_nullable_of_true :
    let row : Row := [("name", .text "c"), ("type", .text "DATE"), ("kind", .text "COLUMN"),
      ("null?", .flag true), ("default", .null)]
    Value.SpellsFlag true (.flag true) ∧ row.cell "null?" = .ok (.flag true) ∧
      ∃ column, columnOfRow .snowflake ⟨"s", "t"⟩ row = .ok (some column) ∧
        column.definition.nullable = false := by
  intro row
  let date : Definition := {
    dialect := .snowflake, type := "DATE", length := none, nullable := false, default := none
    characterSet := none, type_mem := by decide, characterSet_isSome := rfl }
  have read : columnOfRow .snowflake ⟨"s", "t"⟩ row =
      .ok (some ⟨.plain, .text "c", date, rfl⟩) := by
    decide
  exact ⟨.flag, by decide, _, read, rfl⟩

end Catalog

end Warehouse
