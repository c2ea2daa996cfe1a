import Warehouse.Proofs.Catalog.Reading
import Warehouse.Proofs.Dialogue.Steady
import Warehouse.Proofs.Request.Acceptance
import Warehouse.Proofs.Table.Making
import Warehouse.Session.Step

/-! # Tables read part by part

A table is read at once, or by asking for its columns, its keys, its kind and its storage
one after the other. The second way finds the table anew for every part. Over a steady
connection it is found as the same object each time, so both ways conclude alike
(`Catalog.conclusion_partwise`), failures included, and the table that is read at once has
the parts that are told one by one (`Session.definition_iff_parts`). -/

namespace Warehouse

open Warehouse.Computation

variable {σ : Type} {answers : AnswerTable} {dialect : Dialect} {name : TableName}

/-! ## Making a table from parts -/

/-- The parts name no columns but those of the table. -/
def Columns.Include (columns : Columns) (keys : List Value) (storage : Option Storage) : Prop :=
  (∀ key ∈ keys, key.comparable ∈ columns.names.map Value.comparable) ∧
    ∀ present ∈ storage, ∀ column ∈ present.distribution.columns ++ present.index.columns,
      .text column ∈ columns.names

theorem TableDefinition.included (definition : TableDefinition) :
    definition.columns.Include definition.primaryKeys definition.storage := by
  constructor
  · intro key member
    exact Columns.has_iff.mp (Columns.missing_eq_nil_iff.mp definition.keys_present key member)
  · intro present stored column member
    have nothing := definition.storage_present present stored
    exact Columns.has_text_iff.mp (Columns.missingTexts_eq_nil_iff.mp nothing column member)

theorem TableDefinition.exists_make_of_include {temporary : Bool} {columns : Columns}
    {keys : List Value} {storage : Option Storage} (included : columns.Include keys storage) :
    ∃ definition, make name temporary columns keys storage false = .ok definition := by
  have keys_present : columns.missing keys = [] :=
    Columns.missing_eq_nil_iff.mpr fun key member => Columns.has_iff.mpr (included.1 key member)
  have storage_present : ∀ present ∈ storage,
      columns.missingTexts (present.distribution.columns ++ present.index.columns) = [] :=
    fun present stored => Columns.missingTexts_eq_nil_iff.mpr fun column member =>
      Columns.has_text_iff.mpr (included.2 present stored column member)
  exact ⟨_, make_parts ⟨name, temporary, columns, keys, storage, keys_present, storage_present⟩⟩

/-! ## Conclusions of the parts -/

namespace Catalog

/-- The storage of a table, which only Synapse describes. -/
def storage (dialect : Dialect) (name : TableName) : Dialogue (Option Storage) :=
  match dialect with
  | .synapse => do
      let distribution ← distribution name
      let index ← index name
      return some ⟨distribution, index⟩
  | .teradata | .exasol | .snowflake => return none

/-- The reading of a table part by part. -/
def partwise (dialect : Dialect) (name : TableName) : Dialogue TableDefinition := do
  let columns ← columns dialect name
  let keys ← primaryKeys dialect name
  let temporary ← isTemporary dialect name
  let storage ← storage dialect name
  TableDefinition.make name temporary columns keys storage false

section Found

variable {object : ObjectId} (found : (objectId dialect name).conclusion answers = .ok object)

include found

/-- What is asked about a table that was found concludes as it does for this object. -/
theorem conclusion_objectId_bind {α : Type} (next : ObjectId → Dialogue α) :
    (objectId dialect name >>= next).conclusion answers = (next object).conclusion answers := by
  rw [Dialogue.conclusion_bind, found]
  rfl

theorem conclusion_storage :
    (storage dialect name).conclusion answers =
      (storageOf dialect name object).conclusion answers := by
  cases dialect with
  | synapse =>
      simp only [storage, storageOf, distribution, index, Dialogue.conclusion_bind, found]
      rfl
  | teradata | exasol | snowflake => rfl

end Found

/-- Reading a table part by part concludes as reading it at once does. -/
theorem conclusion_partwise (dialect : Dialect) (name : TableName) :
    (partwise dialect name).conclusion answers = (definition dialect name).conclusion answers := by
  -- If the table is not found, both ways end there; else every part finds the same object.
  cases found : (objectId dialect name).conclusion answers with
  | error failure =>
      simp only [partwise, columns, definition, Dialogue.conclusion_bind, found]
      rfl
  | ok object =>
      rw [definition, conclusion_objectId_bind found]
      simp only [partwise, columns, primaryKeys, conclusion_objectId_bind found,
        conclusion_storage found, Dialogue.conclusion_bind, Dialogue.conclusion_record,
        Dialogue.conclusion_pure, bind_assoc, pure_bind, bind_pure]

theorem conclusion_columnNames {columns : Columns}
    (told : (Catalog.columns dialect name).conclusion answers = .ok columns) :
    (columnNames dialect name).conclusion answers = .ok columns.names := by
  simp only [Catalog.columns, Dialogue.conclusion_bind, bind_eq_ok_iff,
    Dialogue.conclusion_lift_table, lift_table_eq_ok_iff, Columns.ofList_eq_ok_iff] at told
  obtain ⟨object, found, list, read, same⟩ := told
  rw [columnNames, conclusion_objectId_bind found, Dialogue.conclusion_bind, read, ← same]
  rfl

end Catalog

/-! ## What is told about a table -/

namespace Session

/-- The storage is what is told about it: distribution and index in Synapse, where they are
asked for one by one, and nothing elsewhere. -/
def TellsStorage (dialect : Dialect) (told : TableQuestion → Except Failure Answer)
    (storage : Option Storage) : Prop :=
  match dialect with
  | .synapse => ∃ present, storage = some present ∧
      told .distribution = .ok (.distribution present.distribution) ∧
      told .index = .ok (.index present.index)
  | .teradata | .exasol | .snowflake => storage = none

/-- These parts are what is told when they are asked for one by one. -/
structure TellsParts (dialect : Dialect) (told : TableQuestion → Except Failure Answer)
    (columns : Columns) (keys : List Value) (temporary : Bool) (storage : Option Storage) :
    Prop where
  columns : told .columns = .ok (.columns columns)
  keys : told .primaryKeys = .ok (.names keys)
  temporary : told .isTemporary = .ok (.flag temporary)
  storage : TellsStorage dialect told storage

/-- What a question about a table concludes with. -/
def concluded (answers : AnswerTable) (dialect : Dialect) (name : TableName)
    (question : TableQuestion) : Except Failure Answer :=
  (question.ask dialect name).conclusion answers

theorem concluded_definition_iff {definition : TableDefinition} :
    concluded answers dialect name .definition = .ok (.table definition) ↔
      (Catalog.definition dialect name).conclusion answers = .ok definition :=
  Dialogue.conclusion_map_eq_ok_iff fun _ _ => Answer.table.inj

theorem tellsStorage_concluded_iff {storage : Option Storage} :
    TellsStorage dialect (concluded answers dialect name) storage ↔
      (Catalog.storage dialect name).conclusion answers = .ok storage := by
  cases dialect with
  | teradata | exasol | snowflake =>
      rw [TellsStorage, eq_comm]
      exact pure_eq_ok_iff.symm
  | synapse =>
      have distributionTold (distribution : Distribution) :
          concluded answers .synapse name .distribution = .ok (.distribution distribution) ↔
            (Catalog.distribution name).conclusion answers = .ok distribution :=
        Dialogue.conclusion_map_eq_ok_iff fun _ _ => Answer.distribution.inj
      have indexTold (index : Index) :
          concluded answers .synapse name .index = .ok (.index index) ↔
            (Catalog.index name).conclusion answers = .ok index :=
        Dialogue.conclusion_map_eq_ok_iff fun _ _ => Answer.index.inj
      simp only [TellsStorage, Catalog.storage, distributionTold, indexTold,
        Dialogue.conclusion_bind, Dialogue.conclusion_pure, bind_eq_ok_iff, pure_eq_ok_iff]
      constructor
      · rintro ⟨present, rfl, distribution, index⟩
        exact ⟨_, distribution, _, index, rfl⟩
      · rintro ⟨distribution, distributionRead, index, indexRead, rfl⟩
        exact ⟨⟨distribution, index⟩, rfl, distributionRead, indexRead⟩

theorem tellsParts_concluded_iff {columns : Columns} {keys : List Value} {temporary : Bool}
    {storage : Option Storage} :
    TellsParts dialect (concluded answers dialect name) columns keys temporary storage ↔
      (Catalog.columns dialect name).conclusion answers = .ok columns ∧
      (Catalog.primaryKeys dialect name).conclusion answers = .ok keys ∧
      (Catalog.isTemporary dialect name).conclusion answers = .ok temporary ∧
      (Catalog.storage dialect name).conclusion answers = .ok storage := by
  have columnsTold : concluded answers dialect name .columns = .ok (.columns columns) ↔ _ :=
    Dialogue.conclusion_map_eq_ok_iff fun _ _ => Answer.columns.inj
  have keysTold : concluded answers dialect name .primaryKeys = .ok (.names keys) ↔ _ :=
    Dialogue.conclusion_map_eq_ok_iff fun _ _ => Answer.names.inj
  have temporaryTold : concluded answers dialect name .isTemporary = .ok (.flag temporary) ↔ _ :=
    Dialogue.conclusion_map_eq_ok_iff fun _ _ => Answer.flag.inj
  rw [← columnsTold, ← keysTold, ← temporaryTold, ← tellsStorage_concluded_iff]
  exact ⟨fun tells => ⟨tells.columns, tells.keys, tells.temporary, tells.storage⟩,
    fun ⟨columns, keys, temporary, storage⟩ => ⟨columns, keys, temporary, storage⟩⟩

/-- A definition is concluded exactly if its parts are and make it. -/
theorem concluded_definition_iff_make {definition : TableDefinition} :
    concluded answers dialect name .definition = .ok (.table definition) ↔
      ∃ columns keys temporary storage,
        TellsParts dialect (concluded answers dialect name) columns keys temporary storage ∧
        TableDefinition.make name temporary columns keys storage false = .ok definition := by
  rw [concluded_definition_iff, ← Catalog.conclusion_partwise]
  simp only [Catalog.partwise, Dialogue.conclusion_bind, bind_eq_ok_iff,
    Dialogue.conclusion_lift_table, lift_table_eq_ok_iff, tellsParts_concluded_iff, and_assoc,
    exists_and_left]

theorem columnNames_concluded {columns : Columns}
    (told : concluded answers dialect name .columns = .ok (.columns columns)) :
    concluded answers dialect name .columnNames = .ok (.names columns.names) := by
  have read := (Dialogue.conclusion_map_eq_ok_iff fun _ _ => Answer.columns.inj).mp told
  exact (Dialogue.conclusion_map_eq_ok_iff fun _ _ => Answer.names.inj).mpr
    (Catalog.conclusion_columnNames read)

end Session

end Warehouse
