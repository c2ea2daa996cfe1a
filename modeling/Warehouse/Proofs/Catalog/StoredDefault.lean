import Warehouse.Proofs.Catalog.ColumnRow
import Warehouse.Proofs.Catalog.Reading
import Warehouse.Proofs.Text.Expression

/-! # Stored defaults

Synapse stores the expression of a default in parentheses. A row with a stored default is
read as the column without it, to which the expression is added
(`Synapse.column_of_storedDefault`). -/

namespace Warehouse

/-- The column type with a default. -/
def Definition.withDefault (expression : String) (definition : Definition) : Definition :=
  { definition with default := some expression }

/-- The column with a default. -/
def Column.withDefault (expression : String) (column : Column) : Column :=
  { column with definition := column.definition.withDefault expression }

theorem Definition.make_withDefault (dialect : Dialect) (spec : Spec) (expression : String) :
    make dialect { spec with default := some expression } =
      (make dialect spec).map (withDefault expression) := by
  unfold make
  by_cases known : Text.capitalWords spec.type ∈ dialect.typeNames
  · simp only [known, ↓reduceDIte]
    cases lengthFor (Text.capitalWords spec.type) spec.length with
    | error fault => rfl
    | ok length =>
        cases characterSetFor dialect (Text.capitalWords spec.type) spec.characterSet <;> rfl
  · simp only [known, ↓reduceDIte]
    rfl

theorem Column.ofName_withDefault (kind : ColumnKind) (name : Value) (definition : Definition)
    (expression : String) :
    ofName kind name (definition.withDefault expression) =
      (ofName kind name definition).map (withDefault expression) := by
  unfold ofName make?
  by_cases named : name.isVoid = false
  · simp only [named, dite_true]
    rfl
  · simp only [named]
    rfl

/-- Where no default is set, a default is written behind everything else. -/
theorem Definition.sql_withDefault {definition : Definition} (own : definition.dialect = .synapse)
    (without : definition.default = none) (expression : String) :
    (definition.withDefault expression).sql = definition.sql ++ " DEFAULT " ++ expression := by
  have setless : definition.characterSet = none := characterSet_eq_none (by simp [own])
  simp [sql, withDefault, own, without, setless, lengthSql, nullSql, defaultSql,
    characterSetSql, String.append_assoc]

namespace Catalog.Synapse

open Warehouse.Computation

/-- The rows have the same cells, except under the name of the default. -/
def AgreeButDefault (row other : Row) : Prop :=
  ∀ key, Text.lower key ≠ "default_value" → row.cell key = other.cell key

/-- The names of the cells that a column is read from besides its default. -/
def otherCells : List String :=
  ["type_name", "column_name", "is_nullable", "max_length", "precision", "scale"]

theorem lower_ne_of_mem_otherCells : ∀ key ∈ otherCells, Text.lower key ≠ "default_value" := by
  decide

section

variable {row plain : Row} (same : AgreeButDefault row plain)

include same

theorem agreeOn_otherCells : row.AgreeOn otherCells plain := fun key other =>
  same key (lower_ne_of_mem_otherCells key other)

/-- A row with a default is read as the column without it, with the expression inside the
stored parentheses added. -/
theorem column_eq_map {stored expression : String}
    (cell : row.cell "default_value" = .ok (.text stored))
    (inside : Text.withoutEnclosing stored = expression)
    (without : plain.cell "default_value" = .ok .null) :
    column row = (column plain).map (Column.withDefault expression) := by
  have agrees := agreeOn_otherCells same
  have type := agrees.text_eq "type_name" (by simp [otherCells])
  have name := agrees.text?_eq "column_name" (by simp [otherCells])
  have nullable := agrees.flag_eq "is_nullable" (by simp [otherCells])
  have lengths := length_eq_of_agreeOn (agrees.mono (by simp [otherCells]))
  have defaults : Corresponds (fun found absent => found = .text stored ∧ absent = .null)
      (row.cell "default_value") (plain.cell "default_value") := by
    rw [cell, without]
    exact .ok ⟨rfl, rfl⟩
  have expressions : Corresponds (fun found absent => found = some stored ∧ absent = none)
      (Value.text stored).text? Value.null.text? := .ok ⟨rfl, rfl⟩
  rw [← corresponds_map_iff]
  apply (Corresponds.of_eq type).lift_cell.bind
  rintro written _ rfl
  apply defaults.lift_cell.bind
  rintro _ _ ⟨rfl, rfl⟩
  apply (Corresponds.of_eq name).lift_cell.bind
  rintro given _ rfl
  apply (Corresponds.of_eq (lengths (Text.upper written))).lift_cell.bind
  rintro told _ rfl
  apply (Corresponds.of_eq nullable).lift_cell.bind
  rintro allowed _ rfl
  apply expressions.lift_cell.bind
  rintro _ _ ⟨rfl, rfl⟩
  -- From here on the two differ in the default only.
  have made := corresponds_map_iff.mpr (Definition.make_withDefault .synapse {
    type := Text.upper written, length := .ofText? told, nullable := allowed } expression)
  rw [← inside] at made ⊢
  apply made.lift_type.bind
  rintro _ definition rfl
  exact corresponds_map_iff.mpr (Column.ofName_withDefault .plain _ definition _)

end

theorem default_of_column {row : Row} {made : Column} (read : column row = .ok made)
    (without : row.cell "default_value" = .ok .null) : made.definition.default = none := by
  simp only [column, bind_eq_ok_iff, lift_cell_eq_ok_iff, lift_type_eq_ok_iff] at read
  obtain ⟨_, -, default, cell, _, -, _, -, _, -, expression, told, definition, specified, named⟩ :=
    read
  obtain ⟨-, -, same⟩ := Column.ofName_eq_ok_iff.mp named
  obtain ⟨-, -, -, -, taken, -⟩ := Definition.make_eq_ok_iff.mp specified
  cases without.symm.trans cell
  cases told
  rw [same, taken]
  rfl

/-- **How a stored default is read.** For an expression whose literals are balanced,
parentheses are taken off exactly as long as the first and the last character are matched
with each other in its reading. So an expression that is balanced in its reading and not
itself in such a pair is found in any number of pairs around it, and a row with this default
is read as the column without a default, with the expression as its default, which is
written behind everything else. -/
theorem column_of_storedDefault {expression : String}
    (sound : Text.HasBalancedLiterals expression.toList) :
    (∀ core, Text.withoutEnclosing expression = core ↔
        Text.Peels Text.ReadsPaired expression.toList core.toList) ∧
      (Text.ReadsBalanced expression.toList → ¬ Text.ReadsPaired expression.toList → ∀ pairs,
        let stored := String.ofList (Text.enclosed pairs expression.toList)
        Text.withoutEnclosing stored = expression ∧
          ∀ row plain, AgreeButDefault row plain → plain.cell "default_value" = .ok .null →
            row.cell "default_value" = .ok (.text stored) →
            column row = (column plain).map (Column.withDefault expression) ∧
              ∀ made, column plain = .ok made →
                (made.withDefault expression).definition.sql =
                  made.definition.sql ++ " DEFAULT " ++ expression) := by
  obtain ⟨cores, surrounded⟩ := Text.withoutEnclosing_reading sound
  refine ⟨cores, fun balanced bare pairs => ⟨surrounded balanced bare pairs, ?_⟩⟩
  intro row plain same without cell
  refine ⟨column_eq_map same cell (surrounded balanced bare pairs) without, ?_⟩
  intro made read
  have own : made.definition.dialect = .synapse := dialect_of_column read
  exact Definition.sql_withDefault own (default_of_column read without) expression

/-- The default is a call with a literal that holds two parentheses. -/
theorem column_of_storedDefault_call :
    Text.HasBalancedLiterals "f('()')".toList ∧
      Text.withoutEnclosing "((f('()')))" = "f('()')" := by
  have read : Text.lexemes "f('()')".toList =
      some [.plain 'f', .plain '(', .literal ['(', ')'], .plain ')'] := by
    cbv
  have balanced : Text.ReadsBalanced "f('()')".toList :=
    ⟨_, read, Text.balanced_iff.mpr rfl⟩
  have bare : ¬ Text.ReadsPaired "f('()')".toList := by
    rintro ⟨inner, other, -⟩
    cases read.symm.trans other
  have sound : Text.HasBalancedLiterals "f('()')".toList := by
    refine ⟨_, read, fun value member => ?_⟩
    have only : value = ['(', ')'] := by simpa using member
    rw [only]
    exact Text.balanced_iff.mpr rfl
  exact ⟨sound, ((column_of_storedDefault sound).2 balanced bare 2).1⟩

end Catalog.Synapse

end Warehouse
