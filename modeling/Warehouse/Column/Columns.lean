import Warehouse.Column.Basic
import Warehouse.Table.Fault

/-! # The columns of a table

An ordered list of columns in which no name occurs twice. A name that is a list or
a map cannot be told apart from others and is refused. Two lists are taken for the
same if their columns have the same names and the same type texts in the same
order; the dialects and declarations behind them do not count. -/

namespace Warehouse

/-- The first fault of names, if there is one: a list or a map, or a name that
occurred before. The names already seen are passed along, as they are compared. -/
def nameFault? (seen : List Value) : List Value → Option TableFault
  | [] => none
  | name :: rest =>
      if name.isStructured then some .structuredName
      else if name.comparable ∈ seen then some (.about .duplicateColumn name)
      else nameFault? (name.comparable :: seen) rest

theorem nameFault?_eq_none_iff {seen names : List Value} :
    nameFault? seen names = none ↔
      (∀ name ∈ names, name.isStructured = false) ∧ (names.map Value.comparable).Nodup ∧
        ∀ name ∈ names, name.comparable ∉ seen := by
  induction names generalizing seen with
  | nil => simp [nameFault?]
  | cons name rest ih =>
      unfold nameFault?
      by_cases structured : name.isStructured = true
      · simp [structured]
      by_cases again : name.comparable ∈ seen
      · simp [structured, again]
      simp only [structured, again, Bool.false_eq_true, ↓reduceIte, ih, List.mem_cons,
        forall_eq_or_imp, List.map_cons, List.nodup_cons, not_or, not_false_eq_true, true_and]
      constructor
      · rintro ⟨plain, distinct, apart⟩
        refine ⟨plain, ⟨fun later => ?_, distinct⟩, fun other member => (apart other member).2⟩
        obtain ⟨other, member, same⟩ := List.mem_map.mp later
        exact (apart other member).1 same
      · rintro ⟨plain, ⟨fresh, distinct⟩, apart⟩
        refine ⟨plain, distinct, fun other member => ⟨fun same => ?_, apart other member⟩⟩
        exact fresh (List.mem_map.mpr ⟨other, member, same⟩)

/-- An ordered list of columns with distinct names. -/
structure Columns where
  toList : List Column
  plain : ∀ column ∈ toList, column.name.isStructured = false
  nodup : (toList.map (·.name.comparable)).Nodup
deriving DecidableEq

namespace Columns

theorem nameFault?_map_name_eq_none_iff {columns : List Column} :
    nameFault? [] (columns.map Column.name) = none ↔
      (∀ column ∈ columns, column.name.isStructured = false) ∧
        (columns.map (·.name.comparable)).Nodup := by
  simp [nameFault?_eq_none_iff, List.map_map, Function.comp_def]

/-- The columns of a list, unless a name is refused. -/
def ofList (columns : List Column) : Except TableFault Columns :=
  match found : nameFault? [] (columns.map Column.name) with
  | some fault => .error fault
  | none =>
      have sound := nameFault?_map_name_eq_none_iff.mp found
      .ok ⟨columns, sound.1, sound.2⟩

/-- The number of columns. -/
def size (columns : Columns) : Nat := columns.toList.length

/-- The names of the columns in order. -/
def names (columns : Columns) : List Value := columns.toList.map Column.name

/-- The column with the given name. -/
def find? (columns : Columns) (name : Value) : Option Column :=
  columns.toList.find? (·.name.comparable = name.comparable)

/-- A column has the given name. -/
def has (columns : Columns) (name : Value) : Bool :=
  columns.toList.any (·.name.comparable = name.comparable)

/-- The names among the given ones that no column has. -/
def missing (columns : Columns) (names : List Value) : List Value :=
  names.filter (!columns.has ·)

/-- The texts among the given ones that no column has for its name. -/
def missingTexts (columns : Columns) (names : List String) : List String :=
  names.filter fun name => !columns.has (.text name)

/-- The names among the given ones whose column allows null. -/
def nullableAmong (columns : Columns) (names : List Value) : List Value :=
  names.filter fun name => (columns.find? name).any (·.definition.nullable)

/-- The column at a position; negative positions count from the end. -/
def at? (columns : Columns) (position : Int) : Option Column :=
  let index := if position < 0 then position + columns.size else position
  if index < 0 then none else columns.toList[index.toNat]?

/-- The names and type texts by which a column list is shown. -/
def canonical (columns : Columns) : List (Value × String) :=
  columns.toList.map Column.canonical

/-- The names and type texts by which column lists are compared. -/
def key (columns : Columns) : List (Value × String) := columns.toList.map Column.key

/-- The two lists have the same names and type texts in the same order. -/
def sameAs (first second : Columns) : Bool := first.key = second.key

theorem has_iff {columns : Columns} {name : Value} :
    columns.has name = true ↔ name.comparable ∈ columns.names.map Value.comparable := by
  simp [has, names]

theorem has_text_iff {columns : Columns} {name : String} :
    columns.has (.text name) = true ↔ .text name ∈ columns.names := by
  simp only [has, names, List.any_eq_true, List.mem_map, decide_eq_true_eq,
    Value.comparable_text, Value.comparable_eq_text_iff]

/-- A column list is refused exactly when a name is refused. -/
theorem ofList_eq_ok_iff {columns : List Column} {result : Columns} :
    ofList columns = .ok result ↔ result.toList = columns := by
  unfold ofList
  split
  · rename_i fault found
    refine ⟨nofun, fun same => ?_⟩
    subst same
    rw [nameFault?_map_name_eq_none_iff.mpr ⟨result.plain, result.nodup⟩] at found
    cases found
  · constructor
    · intro same
      cases same
      rfl
    · rintro rfl
      rfl

end Columns

end Warehouse
