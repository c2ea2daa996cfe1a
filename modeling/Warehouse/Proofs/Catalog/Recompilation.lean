import Warehouse.Proofs.Catalog.Reading
import Warehouse.Proofs.Request.Acceptance

/-! # Tables that are read can be created again

The statement that creates a table which was read from a catalog can fail for the names
and the number of its columns, and where keys are asked for, for a key that allows null
(`Catalog.compile_definition_iff`). Everything else that a request is checked for has
been settled by reading the table: its columns are of the dialect, its keys and the
columns of its storage are among them, and it is temporary in step with its name. -/

namespace Warehouse

namespace TableDefinition

/-- The dialect admits the names of a table and its columns and has room for the
columns. -/
structure HasAdmittedNames (dialect : Dialect) (definition : TableDefinition) : Prop where
  schema : dialect.acceptsName .schema definition.name.schema = true
  table : dialect.acceptsName .table definition.name.table = true
  columns : ∀ column ∈ definition.columns.toList, dialect.AcceptsColumnName column.name
  count : ∀ limit ∈ dialect.maxColumns, definition.columns.size ≤ limit

/-- No key of a table allows null. -/
def ExcludesNullKeys (definition : TableDefinition) : Prop :=
  ∀ key ∈ definition.primaryKeys, ∀ column ∈ definition.columns.toList,
    column.name.comparable = key.comparable → column.definition.nullable = false

variable {dialect : Dialect} {definition : TableDefinition}

/-- The name of a key is admitted because it is the name of a column. -/
theorem HasAdmittedNames.key (admitted : definition.HasAdmittedNames dialect) {key : Value}
    (member : key ∈ definition.primaryKeys) : dialect.AcceptsColumnName key := by
  have present := Columns.missing_eq_nil_iff.mp definition.keys_present key member
  obtain ⟨column, here, same⟩ := Columns.exists_mem_of_has present
  obtain ⟨word, named, accepted⟩ := admitted.columns column here
  rw [named, Value.comparable_text] at same
  exact ⟨word, Value.comparable_eq_text_iff.mp same.symm, accepted⟩

/-- The columns of a storage are columns of the table. -/
theorem has_of_mem_storageColumns {storage : Storage} (stored : definition.storage = some storage)
    {name : String}
    (member : name ∈ storageColumns (some storage.distribution) (some storage.index)) :
    definition.columns.has (.text name) = true :=
  Columns.missingTexts_eq_nil_iff.mp (definition.storage_present storage stored) name
    (by simpa [storageColumns] using member)

theorem HasAdmittedNames.storageColumn (admitted : definition.HasAdmittedNames dialect)
    {name : String} (present : definition.columns.has (.text name) = true) :
    dialect.acceptsName .column name = true := by
  obtain ⟨column, here, same⟩ := Columns.exists_mem_of_has present
  obtain ⟨word, named, accepted⟩ := admitted.columns column here
  rw [named, Value.comparable_text, Value.comparable_text, Value.text.injEq] at same
  exact same ▸ accepted

end TableDefinition

/-- The columns that a storage of a table names have no faults, because they are columns. -/
theorem TableDefinition.HasAdmittedNames.storageColumnFaults_eq_nil {dialect : Dialect}
    {definition : TableDefinition} (admitted : definition.HasAdmittedNames dialect) :
    (storageColumns (definition.storage.map (·.distribution))
      (definition.storage.map (·.index))).flatMap
        (dialect.storageColumnFaults definition.columns) = [] := by
  cases found : definition.storage with
  | none => rfl
  | some storage =>
      refine List.flatMap_eq_nil_iff.mpr fun name member => ?_
      have present := definition.has_of_mem_storageColumns found member
      exact Dialect.storageColumnFaults_eq_nil_iff.mpr ⟨admitted.storageColumn present, present⟩

/-- A fault that a request may still have after its table was read from a catalog: of a
name, of the number of columns, of a key that allows null. -/
def RequestFault.isLeftByReading : RequestFault → Bool
  | invalidName _ _ | nameNotText | tooManyColumns _ _ | nullableKey _ => true
  | foreignColumn _ _ _ | keysNotInColumns _ | reservedTableName _ | storageColumnMissing _
  | sessionMarkMissing _ | noTemporaryTables _ | cascadeUnsupported _ | noDatabases _ => false

namespace Dialect

variable {dialect : Dialect}

theorem isLeftByReading_of_mem_nameFaults {kind : ObjectKind} {name : String}
    {fault : RequestFault} (member : fault ∈ dialect.nameFaults kind name) :
    fault.isLeftByReading = true := by
  unfold nameFaults at member
  split at member
  · cases member
  · rw [List.mem_singleton.mp member]
    rfl

theorem isLeftByReading_of_mem_columnNameFaults {name : Value} {fault : RequestFault}
    (member : fault ∈ dialect.columnNameFaults name) : fault.isLeftByReading = true := by
  unfold columnNameFaults at member
  split at member
  · exact isLeftByReading_of_mem_nameFaults member
  · rw [List.mem_singleton.mp member]
    rfl

theorem isLeftByReading_of_mem_creationFaults {name : TableName} {columns : Columns}
    {keys : List Value} (own : ∀ column ∈ columns.toList, column.dialect = dialect)
    (present : columns.missing keys = []) {fault : RequestFault}
    (member : fault ∈ dialect.creationFaults name columns keys) :
    fault.isLeftByReading = true := by
  simp only [creationFaults, tableNameFaults, keyFaults, present, ↓reduceIte, List.mem_append,
    List.mem_flatMap, List.append_nil, List.mem_map, or_assoc] at member
  rcases member with ofSchema | ofTable | ofCount | ⟨column, here, ofColumn⟩ |
    ⟨key, -, ofKey⟩ | ⟨key, -, rfl⟩
  · exact isLeftByReading_of_mem_nameFaults ofSchema
  · exact isLeftByReading_of_mem_nameFaults ofTable
  · unfold columnCountFaults at ofCount
    split at ofCount
    · cases ofCount
    · split at ofCount
      · cases ofCount
      · rw [List.mem_singleton.mp ofCount]
        rfl
  · rw [columnFaults, own column here, if_pos rfl, List.append_nil] at ofColumn
    exact isLeftByReading_of_mem_columnNameFaults ofColumn
  · exact isLeftByReading_of_mem_columnNameFaults ofKey
  · rfl

end Dialect

namespace TableDefinition.Fits

variable {dialect : Dialect} {definition : TableDefinition}

/-- The faults of creating a table that a dialect can have are those that a creation has
in every dialect, and those of the names of the columns of a storage. -/
theorem faults_ofDefinition (fits : definition.Fits dialect) (withKeys : Bool) :
    (TableRequest.ofDefinition definition withKeys).faults dialect =
      if definition.temporary then dialect.creationFaults definition.name definition.columns []
      else
        dialect.creationFaults definition.name definition.columns
            (if withKeys then definition.primaryKeys else []) ++
          if dialect = .synapse then
            (storageColumns (definition.storage.map (·.distribution))
              (definition.storage.map (·.index))).flatMap
                (dialect.storageColumnFaults definition.columns)
          else [] := by
  unfold TableRequest.ofDefinition
  by_cases temporary : definition.temporary = true
  · have supported : dialect ≠ .exasol := fun exasol => by
      simp [fits.not_temporary exasol] at temporary
    have marked : ¬ (dialect = .synapse ∧ ¬ hasSessionMark definition.name.table = true) := by
      rintro ⟨synapse, unmarked⟩
      exact unmarked (fits.temporary_iff_mark synapse ▸ temporary)
    rw [if_pos temporary, if_pos temporary, TableRequest.faults, if_neg supported, if_neg marked,
      List.append_nil]
  · rw [if_neg temporary, if_neg temporary, TableRequest.faults]
    by_cases synapse : dialect = .synapse
    · have unmarked : ¬ hasSessionMark definition.name.table = true :=
        fits.temporary_iff_mark synapse ▸ temporary
      rw [if_pos synapse, if_pos synapse, if_neg unmarked, List.nil_append]
    · rw [if_neg synapse, if_neg synapse]

theorem creationFaults_eq_nil_iff (fits : definition.Fits dialect) {keys : List Value}
    (keyed : ∀ key ∈ keys, key ∈ definition.primaryKeys) :
    dialect.creationFaults definition.name definition.columns keys = [] ↔
      definition.HasAdmittedNames dialect ∧ ∀ key ∈ keys, ∀ column ∈ definition.columns.toList,
        column.name.comparable = key.comparable → column.definition.nullable = false := by
  rw [Dialect.creationFaults_eq_nil_iff, Dialect.keyFaults_eq_nil_iff]
  constructor
  · rintro ⟨⟨schema, table⟩, count, columns, -, -, excluded⟩
    exact ⟨⟨schema, table, fun column here => (columns column here).1, count⟩, excluded⟩
  · rintro ⟨admitted, excluded⟩
    refine ⟨⟨admitted.schema, admitted.table⟩, admitted.count, fun column here =>
      ⟨admitted.columns column here, fits.dialect_of_mem column here⟩,
      fun key member => admitted.key (keyed key member), fun key member => ?_, excluded⟩
    exact Columns.missing_eq_nil_iff.mp definition.keys_present key (keyed key member)

theorem faults_ofDefinition_eq_nil_iff (fits : definition.Fits dialect) (withKeys : Bool) :
    (TableRequest.ofDefinition definition withKeys).faults dialect = [] ↔
      definition.HasAdmittedNames dialect ∧
        (withKeys = true → definition.temporary = false → definition.ExcludesNullKeys) := by
  rw [fits.faults_ofDefinition]
  by_cases temporary : definition.temporary = true
  · rw [if_pos temporary, fits.creationFaults_eq_nil_iff (by simp)]
    simp [temporary]
  · rw [if_neg temporary, List.append_eq_nil_iff, fits.creationFaults_eq_nil_iff (by aesop)]
    have stored : definition.HasAdmittedNames dialect →
        (if dialect = .synapse then
          (storageColumns (definition.storage.map (·.distribution))
            (definition.storage.map (·.index))).flatMap
              (dialect.storageColumnFaults definition.columns)
         else []) = [] := by
      intro admitted
      rw [admitted.storageColumnFaults_eq_nil, ite_self]
    cases withKeys with
    | false => simpa using stored
    | true =>
        constructor
        · rintro ⟨⟨admitted, excluded⟩, -⟩
          exact ⟨admitted, fun _ _ => excluded⟩
        · rintro ⟨admitted, excluded⟩
          exact ⟨⟨admitted, excluded rfl (by simpa using temporary)⟩, stored admitted⟩

/-- What a catalog has settled about a table is never a fault of creating it again. -/
theorem isLeftByReading_of_mem_faults (fits : definition.Fits dialect) {withKeys : Bool}
    {fault : RequestFault}
    (member : fault ∈ (TableRequest.ofDefinition definition withKeys).faults dialect) :
    fault.isLeftByReading = true := by
  rw [fits.faults_ofDefinition] at member
  split at member
  · exact Dialect.isLeftByReading_of_mem_creationFaults fits.dialect_of_mem rfl member
  · rcases List.mem_append.mp member with ofTable | ofStorage
    · refine Dialect.isLeftByReading_of_mem_creationFaults fits.dialect_of_mem ?_ ofTable
      cases withKeys
      · rfl
      · exact definition.keys_present
    · split at ofStorage
      · obtain ⟨name, here, ofColumn⟩ := List.mem_flatMap.mp ofStorage
        cases found : definition.storage with
        | none => simp [found, storageColumns] at here
        | some storage =>
            rw [found] at here
            have present := definition.has_of_mem_storageColumns found here
            rw [Dialect.storageColumnFaults, if_pos present, List.append_nil] at ofColumn
            exact Dialect.isLeftByReading_of_mem_nameFaults ofColumn
      · cases ofStorage

end TableDefinition.Fits

namespace Catalog

/-- **A table that was read can be created again.** Over every connection, the definition
of a table that was read is turned into a statement of its dialect exactly when its names
are admitted, its columns are not too many and, where keys are asked for, no key of a
table that is not temporary allows null. If it is refused, it is for one of these. -/
theorem compile_definition_iff {σ : Type} {dialect : Dialect} {name : TableName}
    {connection : Connection σ} {state : σ} {definition : TableDefinition}
    (read : ((Catalog.definition dialect name).run connection state).outcome = .ok definition)
    (withKeys : Bool) :
    ((∃ sql, (TableRequest.ofDefinition definition withKeys).compile dialect = .ok sql) ↔
        definition.HasAdmittedNames dialect ∧
          (withKeys = true → definition.temporary = false → definition.ExcludesNullKeys)) ∧
      ∀ fault, (TableRequest.ofDefinition definition withKeys).compile dialect = .error fault →
        fault.isLeftByReading = true := by
  have fits := ((guarantees_definition dialect name).outcome_run read).2
  constructor
  · rw [← fits.faults_ofDefinition_eq_nil_iff]
    simp [TableRequest.compile_eq_ok_iff]
  · intro fault refused
    exact fits.isLeftByReading_of_mem_faults (TableRequest.mem_faults_of_compile refused)

/-- What Synapse answers about a table that is distributed by its key, where the key
allows null. -/
def nullableKeyAnswers : List (List Row) := [
  [[("object_id", .number 7)]],
  [[("column_name", .text "id"), ("type_name", .text "int"), ("is_nullable", .flag true),
    ("default_value", .null)]],
  [[("column_name", .text "id")]],
  [[("distribution_name", .text "HASH"), ("column_name", .text "id")]],
  [[("index_type", .text "CLUSTERED"), ("column_name", .text "id")]]]

theorem compile_definition_iff_nullableKey :
    ∃ definition,
      ((Catalog.definition .synapse ⟨"dbo", "orders"⟩).run .prepared nullableKeyAnswers).outcome =
        .ok definition ∧
      ((∃ sql, (TableRequest.ofDefinition definition true).compile .synapse = .ok sql) ↔
        definition.HasAdmittedNames .synapse ∧
          (true = true → definition.temporary = false → definition.ExcludesNullKeys)) ∧
      ∀ fault, (TableRequest.ofDefinition definition true).compile .synapse = .error fault →
        fault.isLeftByReading = true := by
  obtain ⟨definition, read⟩ : ∃ definition,
      ((Catalog.definition .synapse ⟨"dbo", "orders"⟩).run .prepared nullableKeyAnswers).outcome =
        .ok definition := ⟨_, rfl⟩
  exact ⟨definition, read, compile_definition_iff read true⟩

end Catalog

end Warehouse
