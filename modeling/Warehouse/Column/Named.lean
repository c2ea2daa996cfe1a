import Warehouse.Access

/-! # Columns whose name may be missing

A catalog or a caller may give a column no name or an empty one, which is a
failure. A caller who does not care for the type of a column gets the generic one of
a dialect. -/

namespace Warehouse.Column

/-- A column, unless its name is none. -/
def ofName (kind : ColumnKind) (name : Value) (definition : Definition) :
    Except Failure Column :=
  match make? kind name definition with
  | some column => .ok column
  | none => .error (.usage .emptyColumnName)

theorem ofName_eq_ok_iff {kind : ColumnKind} {name : Value} {definition : Definition}
    {column : Column} :
    ofName kind name definition = .ok column ↔
      column.kind = kind ∧ column.name = name ∧ column.definition = definition := by
  unfold ofName make?
  obtain ⟨columnKind, columnName, columnDefinition, named⟩ := column
  by_cases present : name.isVoid = false
  · simp only [present, dite_true, Except.ok.injEq, Column.mk.injEq]
    rw [eq_comm, @eq_comm _ name, @eq_comm _ definition]
  · simp only [present, dite_false, reduceCtorEq, false_iff]
    rintro ⟨-, rfl, -⟩
    exact present named

/-- The dialect of a generic column: that of a tag, else that of its declaration. -/
def genericDialect (kind : ColumnKind) (tag : Option Value) : Except Failure Dialect :=
  match tag, kind.dialect? with
  | some tag, _ => Dialect.ofTag tag
  | none, some dialect => .ok dialect
  | none, none => .error (.usage .dialectMissing)

/-- A column of the generic type. -/
def generic (kind : ColumnKind) (name : Value) (tag : Option Value) :
    Except Failure Column := do
  ofName kind name (Definition.generic (← genericDialect kind tag))

end Warehouse.Column
