import Warehouse.Column.Columns
import Warehouse.Table.Storage

/-! # Tables

A table has a name in a schema, columns, an ordered list of key columns and, for
Synapse, a storage. `TableDefinition.make` refuses keys and storage columns that
are not columns of the table, and unless told otherwise keys that allow null.
What it refuses first is the first of `TableDefinition.faults`. -/

namespace Warehouse

/-- The name of a table in its schema. -/
structure TableName where
  schema : String
  table : String
deriving DecidableEq, Repr

/-- A consistent description of a table. A storage is known only for tables that
are described for Synapse in particular. -/
structure TableDefinition where
  name : TableName
  temporary : Bool
  columns : Columns
  primaryKeys : List Value
  storage : Option Storage
  keys_present : columns.missing primaryKeys = []
  storage_present : ∀ present ∈ storage,
    columns.missingTexts (present.distribution.columns ++ present.index.columns) = []
deriving DecidableEq

namespace TableDefinition

/-- The fault of keys that are no columns. They are listed in one text, so each of
them has to be a text. -/
def missingKeysFault (missing : List Value) : TableFault :=
  match missing.mapM Value.word? with
  | some names => .keysNotInColumns names
  | none => .keyNotText

/-- The faults of key columns: all names that are no column make one fault, and
each key that allows null makes one where that matters. -/
def keyFaults (columns : Columns) (keys : List Value) (checkNullable : Bool) :
    List TableFault :=
  let missing := columns.missing keys
  (if missing = [] then [] else [missingKeysFault missing]) ++
    (if checkNullable then
      (columns.nullableAmong keys).map (TableFault.about .nullableKey)
     else [])

/-- The faults of the columns that a storage names. -/
def storageFaults (columns : Columns) : Option Storage → List TableFault
  | none => []
  | some storage =>
      (columns.missingTexts storage.distribution.columns).map .distributionColumnMissing ++
        (columns.missingTexts storage.index.columns).map .indexedColumnMissing

/-- All faults of a description, in the order in which they are reported. -/
def faults (columns : Columns) (keys : List Value) (storage : Option Storage)
    (checkNullable : Bool) : List TableFault :=
  keyFaults columns keys checkNullable ++ storageFaults columns storage

theorem missing_eq_nil_of_keyFaults {columns : Columns} {keys : List Value}
    {checkNullable : Bool} (sound : keyFaults columns keys checkNullable = []) :
    columns.missing keys = [] := by
  unfold keyFaults at sound
  by_cases present : columns.missing keys = []
  · exact present
  · simp [present] at sound

theorem missingTexts_eq_nil_of_storageFaults {columns : Columns} {storage : Storage}
    (sound : storageFaults columns (some storage) = []) :
    columns.missingTexts (storage.distribution.columns ++ storage.index.columns) = [] := by
  simp only [storageFaults, List.append_eq_nil_iff, List.map_eq_nil_iff] at sound
  simpa [Columns.missingTexts, List.filter_append] using sound

/-- The described table, or the first of its faults. -/
def make (name : TableName) (temporary : Bool) (columns : Columns) (keys : List Value)
    (storage : Option Storage) (checkNullable : Bool) : Except TableFault TableDefinition :=
  match found : faults columns keys storage checkNullable with
  | fault :: _ => .error fault
  | [] =>
      have sound := List.append_eq_nil_iff.mp found
      .ok {
        name, temporary, columns, storage
        primaryKeys := keys
        keys_present := missing_eq_nil_of_keyFaults sound.1
        storage_present := fun _ member =>
          missingTexts_eq_nil_of_storageFaults (Option.mem_def.mp member ▸ sound.2) }

/-- The two descriptions are of the same table: all parts agree, the columns by
their names and type texts, and names as they are compared. -/
def sameAs (first second : TableDefinition) : Bool :=
  first.name = second.name && first.temporary = second.temporary &&
    first.columns.sameAs second.columns &&
    first.primaryKeys.map Value.comparable = second.primaryKeys.map Value.comparable &&
    first.storage = second.storage

end TableDefinition

end Warehouse
