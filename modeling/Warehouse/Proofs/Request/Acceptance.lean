import Mathlib.Data.List.Nodup
import Warehouse.Request.Table

/-! # Requests without faults

A request is answered by a statement exactly when its list of faults is empty. Each part
of that list is empty under a condition of its own, stated here without lists of faults:
a name is admitted, a column is of the dialect, a key is a column that excludes null. -/

namespace Warehouse

namespace Columns

/-- Columns of one table with the same name are one column. -/
theorem eq_of_comparable_eq {columns : Columns} {first second : Column}
    (here : first ∈ columns.toList) (there : second ∈ columns.toList)
    (same : first.name.comparable = second.name.comparable) : first = second :=
  List.inj_on_of_nodup_map columns.nodup here there same

/-- A name is looked up with the one column of that name. -/
theorem find?_eq_some_iff {columns : Columns} {name : Value} {column : Column} :
    columns.find? name = some column ↔
      column ∈ columns.toList ∧ column.name.comparable = name.comparable := by
  constructor
  · intro found
    exact ⟨List.mem_of_find?_eq_some found, by simpa using List.find?_some found⟩
  · rintro ⟨member, same⟩
    cases found : columns.find? name with
    | none => exact absurd same (by simpa using List.find?_eq_none.mp found column member)
    | some first =>
        have agrees : first.name.comparable = name.comparable := by
          simpa using List.find?_some found
        rw [columns.eq_of_comparable_eq (List.mem_of_find?_eq_some found) member
          (agrees.trans same.symm)]

theorem exists_mem_of_has {columns : Columns} {name : Value} (present : columns.has name = true) :
    ∃ column ∈ columns.toList, column.name.comparable = name.comparable := by
  simpa [has] using present

theorem missing_eq_nil_iff {columns : Columns} {names : List Value} :
    columns.missing names = [] ↔ ∀ name ∈ names, columns.has name = true := by
  simp [missing, List.filter_eq_nil_iff]

theorem missingTexts_eq_nil_iff {columns : Columns} {names : List String} :
    columns.missingTexts names = [] ↔ ∀ name ∈ names, columns.has (.text name) = true := by
  simp [missingTexts, List.filter_eq_nil_iff]

/-- No name allows null if and only if no column of such a name does. -/
theorem nullableAmong_eq_nil_iff {columns : Columns} {names : List Value} :
    columns.nullableAmong names = [] ↔ ∀ name ∈ names, ∀ column ∈ columns.toList,
      column.name.comparable = name.comparable → column.definition.nullable = false := by
  have allowed (name : Value) :
      (columns.find? name).any (·.definition.nullable) = false ↔ ∀ column ∈ columns.toList,
        column.name.comparable = name.comparable → column.definition.nullable = false := by
    simp only [Option.any_eq_false, find?_eq_some_iff, and_imp]
  simp only [nullableAmong, List.filter_eq_nil_iff, Bool.not_eq_true, allowed]

end Columns

namespace Dialect

/-- The dialect admits the name of a column, which is then a text. -/
def AcceptsColumnName (dialect : Dialect) (name : Value) : Prop :=
  ∃ word, name = .text word ∧ dialect.acceptsName .column word = true

variable {dialect : Dialect}

theorem nameFaults_eq_nil_iff {kind : ObjectKind} {name : String} :
    dialect.nameFaults kind name = [] ↔ dialect.acceptsName kind name = true := by
  unfold nameFaults
  split <;> simp_all

theorem tableNameFaults_eq_nil_iff {name : TableName} :
    dialect.tableNameFaults name = [] ↔ dialect.acceptsName .schema name.schema = true ∧
      dialect.acceptsName .table name.table = true := by
  rw [tableNameFaults, List.append_eq_nil_iff, nameFaults_eq_nil_iff, nameFaults_eq_nil_iff]

theorem columnCountFaults_eq_nil_iff {columns : Columns} :
    dialect.columnCountFaults columns = [] ↔
      ∀ limit ∈ dialect.maxColumns, columns.size ≤ limit := by
  unfold columnCountFaults
  cases dialect.maxColumns with
  | none => simp
  | some limit => by_cases few : columns.size ≤ limit <;> simp [few]

theorem columnNameFaults_eq_nil_iff {name : Value} :
    dialect.columnNameFaults name = [] ↔ dialect.AcceptsColumnName name := by
  unfold columnNameFaults AcceptsColumnName
  cases name <;> simp [Value.word?, nameFaults_eq_nil_iff]

theorem columnFaults_eq_nil_iff {column : Column} :
    dialect.columnFaults column = [] ↔
      dialect.AcceptsColumnName column.name ∧ column.dialect = dialect := by
  rw [columnFaults, List.append_eq_nil_iff, columnNameFaults_eq_nil_iff]
  by_cases own : column.dialect = dialect <;> simp [own]

theorem keyFaults_eq_nil_iff {columns : Columns} {keys : List Value} :
    dialect.keyFaults columns keys = [] ↔
      (∀ key ∈ keys, dialect.AcceptsColumnName key) ∧ (∀ key ∈ keys, columns.has key = true) ∧
        ∀ key ∈ keys, ∀ column ∈ columns.toList,
          column.name.comparable = key.comparable → column.definition.nullable = false := by
  simp only [keyFaults, List.append_eq_nil_iff, List.flatMap_eq_nil_iff,
    columnNameFaults_eq_nil_iff, List.map_eq_nil_iff, Columns.nullableAmong_eq_nil_iff,
    and_assoc]
  rw [← Columns.missing_eq_nil_iff]
  by_cases present : columns.missing keys = [] <;> simp [present]

theorem storageColumnFaults_eq_nil_iff {columns : Columns} {name : String} :
    dialect.storageColumnFaults columns name = [] ↔
      dialect.acceptsName .column name = true ∧ columns.has (.text name) = true := by
  rw [storageColumnFaults, List.append_eq_nil_iff, nameFaults_eq_nil_iff]
  by_cases present : columns.has (.text name) = true <;> simp [present]

theorem creationFaults_eq_nil_iff {name : TableName} {columns : Columns} {keys : List Value} :
    dialect.creationFaults name columns keys = [] ↔
      (dialect.acceptsName .schema name.schema = true ∧
        dialect.acceptsName .table name.table = true) ∧
      (∀ limit ∈ dialect.maxColumns, columns.size ≤ limit) ∧
      (∀ column ∈ columns.toList,
        dialect.AcceptsColumnName column.name ∧ column.dialect = dialect) ∧
      dialect.keyFaults columns keys = [] := by
  simp only [creationFaults, List.append_eq_nil_iff, List.flatMap_eq_nil_iff,
    tableNameFaults_eq_nil_iff, columnCountFaults_eq_nil_iff, columnFaults_eq_nil_iff, and_assoc]

end Dialect

namespace TableRequest

variable {dialect : Dialect} {request : TableRequest}

/-- A request is answered by its statement exactly when it has no faults. -/
theorem compile_eq_ok_iff {sql : Sql} :
    request.compile dialect = .ok sql ↔
      request.faults dialect = [] ∧ request.sql dialect = sql := by
  unfold compile
  cases request.faults dialect <;> simp

/-- A request that is refused is refused for one of its faults. -/
theorem mem_faults_of_compile {fault : RequestFault}
    (refused : request.compile dialect = .error fault) : fault ∈ request.faults dialect := by
  unfold compile at refused
  split at refused
  · cases refused
  · cases refused
    simp_all

end TableRequest

end Warehouse
