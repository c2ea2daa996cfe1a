import Warehouse.Table.Definition

/-! # Tables made from their parts

A distribution and an index are made from their names and columns alone, and a table from
its parts. Catalogs are read into columns that are declared plainly, which makes no
difference between tables: a table is the same as the one with all its columns declared
plainly (`TableDefinition.sameAs_plain`). -/

namespace Warehouse

/-! ## Storage -/

theorem Distribution.make_name (distribution : Distribution) :
    make distribution.name distribution.columns = .ok distribution := by
  have upper : Text.upper distribution.name = distribution.name := by
    cases distribution <;> simp only [name] <;> decide
  unfold make
  rw [upper]
  cases distribution <;> simp [name, columns]

theorem Index.make_type (index : Index) : make index.type index.columns = .ok index := by
  have normal : Text.capitalWords index.type = index.type := by
    cases index <;> simp only [type] <;> decide
  unfold make
  rw [normal]
  cases index with
  | heap | clusteredColumnstore => simp [type, columns]
  | clustered columns present => simp [type, Index.columns, present]

/-! ## Columns and tables -/

/-- The column declared plainly. -/
def Column.plain (column : Column) : Column := { column with kind := .plain }

namespace Columns

/-- The columns, each declared plainly. -/
def plainly (columns : Columns) : Columns where
  toList := columns.toList.map Column.plain
  plain := by
    simp only [List.forall_mem_map]
    exact columns.plain
  nodup := by
    rw [List.map_map]
    exact columns.nodup

theorem names_plainly (columns : Columns) : columns.plainly.names = columns.names := by
  simp only [names, plainly, List.map_map]
  rfl

theorem has_plainly (columns : Columns) (name : Value) :
    columns.plainly.has name = columns.has name := by
  rw [Bool.eq_iff_iff, has_iff, has_iff, names_plainly]

theorem sameAs_plainly (columns : Columns) : columns.plainly.sameAs columns = true := by
  simp only [sameAs, key, plainly, List.map_map, decide_eq_true_eq]
  rfl

/-- Columns that are read one for one into plain ones are all accepted. -/
theorem ofList_plain (columns : Columns) :
    ofList (columns.toList.map Column.plain) = .ok columns.plainly :=
  ofList_eq_ok_iff.mpr rfl

end Columns

namespace TableDefinition

/-- The table with all its columns declared plainly. -/
def plain (definition : TableDefinition) : TableDefinition where
  name := definition.name
  temporary := definition.temporary
  columns := definition.columns.plainly
  primaryKeys := definition.primaryKeys
  storage := definition.storage
  keys_present := by
    simpa only [Columns.missing, Columns.has_plainly] using definition.keys_present
  storage_present := by
    simpa only [Columns.missingTexts, Columns.has_plainly] using definition.storage_present

theorem sameAs_plain (definition : TableDefinition) :
    definition.plain.sameAs definition = true := by
  simp [sameAs, plain, Columns.sameAs_plainly]

variable {name : TableName} {temporary : Bool} {columns : Columns} {keys : List Value}
  {storage : Option Storage} {checkNullable : Bool}

/-- A table that is refused is refused for the first of its faults. -/
theorem make_eq_error_iff {fault : TableFault} :
    make name temporary columns keys storage checkNullable = .error fault ↔
      (faults columns keys storage checkNullable).head? = some fault := by
  unfold make
  split
  · rename_i first _ found
    rw [found]
    simp
  · rename_i found
    constructor
    · intro refused
      cases refused
    · intro first
      rw [found] at first
      cases first

/-- A table that is made has no faults and the given parts. -/
theorem of_make {definition : TableDefinition}
    (made : make name temporary columns keys storage checkNullable = .ok definition) :
    faults columns keys storage checkNullable = [] ∧ definition.name = name ∧
      definition.temporary = temporary ∧ definition.columns = columns ∧
      definition.primaryKeys = keys ∧ definition.storage = storage := by
  unfold make at made
  split at made
  · cases made
  · rename_i found
    cases made
    exact ⟨found, rfl, rfl, rfl, rfl, rfl⟩

/-- A table is made again from its parts, when keys may allow null. -/
theorem make_parts (definition : TableDefinition) :
    make definition.name definition.temporary definition.columns definition.primaryKeys
      definition.storage false = .ok definition := by
  have keys : keyFaults definition.columns definition.primaryKeys false = [] := by
    simp [keyFaults, definition.keys_present]
  have stored : storageFaults definition.columns definition.storage = [] := by
    rcases given : definition.storage with _ | storage
    · rfl
    · have present := definition.storage_present storage given
      simp only [Columns.missingTexts, List.filter_append, List.append_eq_nil_iff] at present
      simp [storageFaults, Columns.missingTexts, present]
  have sound : faults definition.columns definition.primaryKeys definition.storage false = [] := by
    rw [faults, keys, stored, List.append_nil]
  unfold make
  split
  · rename_i fault _ found
    rw [sound] at found
    cases found
  · rfl

end TableDefinition

end Warehouse
