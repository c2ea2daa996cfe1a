import Warehouse.Proofs.Catalog.Recompilation
import Warehouse.Proofs.Request.Checks
import Warehouse.Proofs.Table.Making

/-! # Keys are checked alike

Keys are checked twice: when a table is described, and when the statement that creates it is
requested. Where everything else about the request is admitted, both checks report the same
faults in the same order (`TableDefinition.forall₂_keyFaults`), so that the first error has one
code and one message (`Dialect.AdmitsParts.keyError_iff`). A table that has been described is
refused for nothing that its keys or its storage add. -/

namespace Warehouse

/-! ## Errors about keys -/

/-- The code is of an error about keys. -/
def ErrorCode.IsAboutKeys (code : ErrorCode) : Prop :=
  code = .primaryKeyNotInColumns ∨ code = .primaryKeyOnNullableColumn

/-- The two faults say the same about keys. -/
inductive SameKeyFault : TableFault → RequestFault → Prop where
  | missing (names : List String) :
      SameKeyFault (.keysNotInColumns names) (.keysNotInColumns names)
  | nullable (name : String) : SameKeyFault (.nullableKey name) (.nullableKey name)

namespace SameKeyFault

variable {described : TableFault} {requested : RequestFault}

theorem code_eq (same : SameKeyFault described requested) :
    described.code? = requested.code? := by
  cases same <;> rfl

theorem message_eq (same : SameKeyFault described requested) :
    described.message? = requested.message? := by
  cases same <;> rfl

theorem told (same : SameKeyFault described requested) :
    ∃ code message, code.IsAboutKeys ∧ described.code? = some code ∧
      described.message? = some message := by
  cases same with
  | missing => exact ⟨_, _, .inl rfl, rfl, rfl⟩
  | nullable => exact ⟨_, _, .inr rfl, rfl, rfl⟩

end SameKeyFault

/-- What the dialect has to admit about a request before its keys are looked up: the names, the
number of the columns and their dialect, the names of the keys, and in Synapse that the table
has no mark of a session. -/
structure Dialect.AdmitsParts (dialect : Dialect) (name : TableName) (columns : Columns)
    (keys : List Value) : Prop where
  schema : dialect.acceptsName .schema name.schema = true
  table : dialect.acceptsName .table name.table = true
  count : ∀ limit ∈ dialect.maxColumns, columns.size ≤ limit
  columns : ∀ column ∈ columns.toList,
    dialect.AcceptsColumnName column.name ∧ column.dialect = dialect
  keys : ∀ key ∈ keys, dialect.AcceptsColumnName key
  unmarked : dialect = .synapse → hasSessionMark name.table = false

/-- Texts are listed as they are. -/
theorem Value.mapM_word?_eq {names : List Value}
    (texts : ∀ name ∈ names, name.word? = some name.wording) :
    names.mapM Value.word? = some (names.map Value.wording) := by
  induction names with
  | nil => rfl
  | cons name names ih =>
      rw [List.forall_mem_cons] at texts
      rw [List.mapM_cons, texts.1, ih texts.2]
      rfl

variable {dialect : Dialect} {name : TableName} {columns : Columns} {keys : List Value}
  {storage : Option Storage} {distribution : Option Distribution} {index : Option Index}

namespace TableDefinition

/-- Keys whose names are admitted have the same faults in a description and in a request. -/
theorem forall₂_keyFaults (admitted : ∀ key ∈ keys, dialect.AcceptsColumnName key) :
    List.Forall₂ SameKeyFault (keyFaults columns keys true) (dialect.keyFaults columns keys) := by
  have names : keys.flatMap dialect.columnNameFaults = [] :=
    List.flatMap_eq_nil_iff.mpr fun key member =>
      Dialect.columnNameFaults_eq_nil_iff.mpr (admitted key member)
  have texts : ∀ key ∈ columns.missing keys, key.word? = some key.wording := by
    intro key member
    obtain ⟨word, rfl, -⟩ := admitted key (List.mem_of_mem_filter member)
    rfl
  have listed : missingKeysFault (columns.missing keys) =
      .keysNotInColumns ((columns.missing keys).map Value.wording) := by
    rw [missingKeysFault, Value.mapM_word?_eq texts]
  rw [keyFaults, Dialect.keyFaults, names, List.nil_append, if_pos rfl]
  apply List.rel_append
  · by_cases present : columns.missing keys = []
    · rw [if_pos present, if_pos present]
      exact .nil
    · rw [if_neg present, if_neg present, listed]
      exact .cons (.missing _) .nil
  · rw [List.forall₂_map_left_iff, List.forall₂_map_right_iff, List.forall₂_same]
    intro key member
    obtain ⟨word, rfl, -⟩ := admitted key (List.mem_of_mem_filter member)
    exact .nullable word

end TableDefinition

/-! ## The first error -/

/-- What does not occur behind is first of all if it is first in front. -/
theorem head?_append_iff {α : Type} {front back : List α} {item : α} (elsewhere : item ∉ back) :
    (front ++ back).head? = some item ↔ front.head? = some item := by
  cases front with
  | nil => exact ⟨fun first => absurd (List.mem_of_head? first) elsewhere, nofun⟩
  | cons first front => rfl

namespace TableDefinition

theorem not_mem_storageFaults {fault : TableFault} {code : ErrorCode} (about : code.IsAboutKeys)
    (coded : fault.code? = some code) : fault ∉ storageFaults columns storage := by
  intro member
  cases storage with
  | none => cases member
  | some storage =>
      rcases List.mem_append.mp member with ofDistribution | ofIndex
      · obtain ⟨column, -, rfl⟩ := List.mem_map.mp ofDistribution
        cases coded
        simp [ErrorCode.IsAboutKeys] at about
      · obtain ⟨column, -, rfl⟩ := List.mem_map.mp ofIndex
        cases coded
        simp [ErrorCode.IsAboutKeys] at about

/-- A description ends with an error about keys if that is the first fault of the keys. -/
theorem make_keyError_iff {fault : TableFault} {code : ErrorCode} (about : code.IsAboutKeys)
    (coded : fault.code? = some code) :
    make name false columns keys storage true = .error fault ↔
      (keyFaults columns keys true).head? = some fault := by
  rw [make_eq_error_iff, faults, head?_append_iff (not_mem_storageFaults about coded)]

end TableDefinition

theorem Dialect.not_mem_storageColumnFaults {fault : RequestFault} {code : ErrorCode}
    (about : code.IsAboutKeys) (coded : fault.code? = some code) {column : String} :
    fault ∉ dialect.storageColumnFaults columns column := by
  intro member
  obtain ⟨check, made, -, rfl⟩ :=
    (dialect.report_storageColumn columns column).exists_broken member
  have other : check.fault.code? = some .invalidIdentifier := by
    rcases List.mem_pair.mp made with rfl | rfl <;> rfl
  rw [other] at coded
  cases coded
  simp [ErrorCode.IsAboutKeys] at about

/-- What the dialect admits leaves the faults of the keys and of the storage. -/
theorem Dialect.AdmitsParts.faults_eq (admitted : dialect.AdmitsParts name columns keys) :
    (TableRequest.create name columns keys distribution index).faults dialect =
      dialect.keyFaults columns keys ++
        if dialect = .synapse then
          (storageColumns distribution index).flatMap (dialect.storageColumnFaults columns)
        else [] := by
  have names := tableNameFaults_eq_nil_iff.mpr ⟨admitted.schema, admitted.table⟩
  have count := columnCountFaults_eq_nil_iff.mpr admitted.count
  have each : columns.toList.flatMap dialect.columnFaults = [] :=
    List.flatMap_eq_nil_iff.mpr fun column member =>
      columnFaults_eq_nil_iff.mpr (admitted.columns column member)
  rw [TableRequest.faults, creationFaults, names, count, each]
  by_cases synapse : dialect = .synapse
  · simp [synapse, admitted.unmarked synapse]
  · simp [synapse]

/-- A request ends with an error about keys if that is the first fault of the keys. -/
theorem TableRequest.compile_keyError_iff (admitted : dialect.AdmitsParts name columns keys)
    {fault : RequestFault} {code : ErrorCode} (about : code.IsAboutKeys)
    (coded : fault.code? = some code) :
    (create name columns keys distribution index).compile dialect = .error fault ↔
      (dialect.keyFaults columns keys).head? = some fault := by
  rw [compile_eq_error_iff, admitted.faults_eq]
  apply head?_append_iff
  split
  · intro member
    obtain ⟨column, -, ofColumn⟩ := List.mem_flatMap.mp member
    exact Dialect.not_mem_storageColumnFaults about coded ofColumn
  · exact List.not_mem_nil

/-- Lists whose items correspond begin with items that correspond. -/
theorem forall₂_head? {α β : Type} {relates : α → β → Prop} {items : List α} {others : List β}
    (related : List.Forall₂ relates items others) {item : α} (first : items.head? = some item) :
    ∃ other, others.head? = some other ∧ relates item other := by
  cases related with
  | nil => cases first
  | cons here _ =>
      cases first
      exact ⟨_, rfl, here⟩

/-- The description of a table ends with an error of the given code and message. -/
def TableDefinition.EndsWith (described : Except TableFault TableDefinition) (code : ErrorCode)
    (message : String) : Prop :=
  ∃ fault, described = .error fault ∧ fault.code? = some code ∧ fault.message? = some message

/-- The request for a statement ends with an error of the given code and message. -/
def TableRequest.EndsWith (requested : Except RequestFault Sql) (code : ErrorCode)
    (message : String) : Prop :=
  ∃ fault, requested = .error fault ∧ fault.code? = some code ∧ fault.message? = some message

/-- A description and a request end with the same errors about keys. -/
theorem Dialect.AdmitsParts.keyError_iff (admitted : dialect.AdmitsParts name columns keys)
    {code : ErrorCode} (about : code.IsAboutKeys) (message : String) :
    TableDefinition.EndsWith (TableDefinition.make name false columns keys storage true)
        code message ↔
      TableRequest.EndsWith
        ((TableRequest.create name columns keys distribution index).compile dialect)
        code message := by
  have alike := @TableDefinition.forall₂_keyFaults dialect columns keys admitted.keys
  constructor
  · rintro ⟨fault, ended, coded, told⟩
    have first := (TableDefinition.make_keyError_iff about coded).mp ended
    obtain ⟨requested, there, same⟩ := forall₂_head? alike first
    have again := same.code_eq ▸ coded
    exact ⟨requested, (TableRequest.compile_keyError_iff admitted about again).mpr there, again,
      same.message_eq ▸ told⟩
  · rintro ⟨fault, ended, coded, told⟩
    have first := (TableRequest.compile_keyError_iff admitted about coded).mp ended
    obtain ⟨described, there, same⟩ := forall₂_head? alike.flip first
    have again := same.code_eq.trans coded
    exact ⟨described, (TableDefinition.make_keyError_iff about again).mpr there, again,
      same.message_eq.trans told⟩

/-- No error is about keys exactly if every key is a column that excludes null. -/
theorem Dialect.AdmitsParts.no_keyError_iff (admitted : dialect.AdmitsParts name columns keys) :
    (∀ code message, code.IsAboutKeys → ¬ TableDefinition.EndsWith
        (TableDefinition.make name false columns keys storage true) code message) ↔
      ∀ key ∈ keys, columns.has key = true ∧ ∀ column ∈ columns.toList,
        column.name.comparable = key.comparable → column.definition.nullable = false := by
  have alike := @TableDefinition.forall₂_keyFaults dialect columns keys admitted.keys
  have sound : TableDefinition.keyFaults columns keys true = [] ↔
      ∀ key ∈ keys, columns.has key = true ∧ ∀ column ∈ columns.toList,
        column.name.comparable = key.comparable → column.definition.nullable = false := by
    rw [← List.length_eq_zero_iff, alike.length_eq, List.length_eq_zero_iff,
      Dialect.keyFaults_eq_nil_iff, forall₂_and]
    exact and_iff_right admitted.keys
  rw [← sound]
  constructor
  · intro never
    cases found : TableDefinition.keyFaults columns keys true with
    | nil => rfl
    | cons fault rest =>
        obtain ⟨_, -, same⟩ := forall₂_head? alike (by rw [found]; rfl)
        obtain ⟨code, message, about, coded, told⟩ := same.told
        refine absurd ⟨fault, ?_, coded, told⟩ (never code message about)
        exact (TableDefinition.make_keyError_iff about coded).mpr (by rw [found]; rfl)
  · rintro nothing code message about ⟨fault, ended, coded, -⟩
    have first := (TableDefinition.make_keyError_iff about coded).mp ended
    rw [nothing] at first
    cases first

/-! ## Described tables -/

/-- The request that creates a defined table without its keys and its storage. -/
def TableRequest.ofColumns (definition : TableDefinition) : TableRequest :=
  if definition.temporary then createTemporary definition.name definition.columns
  else create definition.name definition.columns [] none none

/-- The fault is of a key, or of a column that a storage names. -/
def RequestFault.isOfKeyOrStorage : RequestFault → Bool
  | keysNotInColumns _ | nullableKey _ | storageColumnMissing _ => true
  | invalidName _ _ | nameNotText | tooManyColumns _ _ | foreignColumn _ _ _
  | reservedTableName _ | sessionMarkMissing _ | noTemporaryTables _ | cascadeUnsupported _
  | noDatabases _ => false

theorem Dialect.creationFaults_append (dialect : Dialect) (name : TableName) (columns : Columns)
    (keys : List Value) :
    dialect.creationFaults name columns keys =
      dialect.creationFaults name columns [] ++ dialect.keyFaults columns keys := by
  have nothing : dialect.keyFaults columns [] = [] := rfl
  rw [creationFaults, creationFaults, nothing, List.append_nil]

namespace TableDefinition

variable {definition : TableDefinition}

/-- A table that is made with all checks has keys that exclude null. -/
theorem excludesNullKeys_of_make {temporary : Bool}
    (made : make name temporary columns keys storage true = .ok definition) :
    definition.ExcludesNullKeys := by
  obtain ⟨sound, -, -, rfl, rfl, -⟩ := of_make made
  have nothing := (List.append_eq_nil_iff.mp (List.append_eq_nil_iff.mp sound).1).2
  rw [if_pos rfl, List.map_eq_nil_iff] at nothing
  exact Columns.nullableAmong_eq_nil_iff.mp nothing

theorem HasAdmittedNames.keyFaults_eq_nil (admitted : definition.HasAdmittedNames dialect)
    (excluded : definition.ExcludesNullKeys) (withKeys : Bool) :
    dialect.keyFaults definition.columns (if withKeys then definition.primaryKeys else []) =
      [] := by
  cases withKeys with
  | false => rfl
  | true =>
      exact Dialect.keyFaults_eq_nil_iff.mpr ⟨fun _ member => admitted.key member,
        Columns.missing_eq_nil_iff.mp definition.keys_present, excluded⟩

/-- Neither the keys nor the storage of a table whose keys exclude null have the first fault. -/
theorem head?_faults_ofDefinition (excluded : definition.ExcludesNullKeys) (dialect : Dialect)
    (withKeys : Bool) :
    ((TableRequest.ofDefinition definition withKeys).faults dialect).head? =
      ((TableRequest.ofColumns definition).faults dialect).head? := by
  unfold TableRequest.ofDefinition TableRequest.ofColumns
  by_cases temporary : definition.temporary = true
  · rw [if_pos temporary, if_pos temporary]
  · rw [if_neg temporary, if_neg temporary, TableRequest.faults, TableRequest.faults,
      Dialect.creationFaults_append]
    cases shape : dialect.creationFaults definition.name definition.columns [] with
    | cons fault _ => rfl
    | nil =>
        obtain ⟨⟨schema, table⟩, count, each, -⟩ := Dialect.creationFaults_eq_nil_iff.mp shape
        have admitted : definition.HasAdmittedNames dialect :=
          ⟨schema, table, fun column member => (each column member).1, count⟩
        rw [admitted.keyFaults_eq_nil excluded, admitted.storageColumnFaults_eq_nil]
        rfl

end TableDefinition

theorem Dialect.isOfKeyOrStorage_columnNameCheck (given : Value) :
    (dialect.columnNameCheck given).fault.isOfKeyOrStorage = false := by
  unfold columnNameCheck
  cases given.word? <;> rfl

/-- Without keys there is one check of the keys, which holds. -/
theorem Dialect.isOfKeyOrStorage_of_mem_creationChecks {check : Check}
    (made : check ∈ dialect.creationChecks name columns []) (broken : ¬ check.holds) :
    check.fault.isOfKeyOrStorage = false := by
  simp only [creationChecks, tableNameChecks, keyChecks, List.map_nil, List.nil_append,
    List.append_assoc, List.mem_append, List.mem_pair, List.mem_singleton,
    List.mem_flatMap] at made
  rcases made with (rfl | rfl) | ofCount | ⟨column, -, ofColumn⟩ | rfl
  · rfl
  · rfl
  · obtain ⟨limit, -, rfl⟩ := List.mem_map.mp ofCount
    rfl
  · rcases List.mem_pair.mp ofColumn with rfl | rfl
    · exact isOfKeyOrStorage_columnNameCheck _
    · rfl
  · exact absurd (List.forall_mem_nil _) broken

theorem TableRequest.isOfKeyOrStorage_of_mem_faults {definition : TableDefinition}
    {fault : RequestFault} (member : fault ∈ (ofColumns definition).faults dialect) :
    fault.isOfKeyOrStorage = false := by
  obtain ⟨check, made, broken, rfl⟩ := ((ofColumns definition).report dialect).exists_broken member
  unfold ofColumns at made
  split at made
  · rw [checks] at made
    split at made
    · rw [List.mem_singleton.mp made]
      rfl
    · rcases List.mem_append.mp made with ofTable | marked
      · exact Dialect.isOfKeyOrStorage_of_mem_creationChecks ofTable broken
      · split at marked
        · rw [List.mem_singleton.mp marked]
          rfl
        · cases marked
  · rw [checks] at made
    rcases List.mem_append.mp made with ofTable | unmarked
    · exact Dialect.isOfKeyOrStorage_of_mem_creationChecks ofTable broken
    · split at unmarked
      · rw [List.mem_singleton.mp unmarked]
        rfl
      · cases unmarked

/-- **Keys are checked alike when a table is described and when it is created.** Where the
dialect admits everything else about the request, the description of a table that is not
temporary and the request for its statement end with the same errors about keys, by code and
message, whatever the storage; and there is none exactly if every key is a column that excludes
null. The statement for a table that has been described is refused for no key and no column of
its storage: it is refused as it is without them. -/
theorem TableDefinition.make_agrees_compile (dialect : Dialect) (name : TableName)
    (columns : Columns) (keys : List Value) :
    (dialect.AdmitsParts name columns keys → ∀ storage distribution index,
      (∀ code message, code.IsAboutKeys →
        (EndsWith (make name false columns keys storage true) code message ↔
          TableRequest.EndsWith
            ((TableRequest.create name columns keys distribution index).compile dialect)
            code message)) ∧
      ((∀ code message, code.IsAboutKeys →
          ¬ EndsWith (make name false columns keys storage true) code message) ↔
        ∀ key ∈ keys, columns.has key = true ∧ ∀ column ∈ columns.toList,
          column.name.comparable = key.comparable → column.definition.nullable = false)) ∧
    ∀ temporary storage definition,
      make name temporary columns keys storage true = .ok definition → ∀ withKeys fault,
        ((TableRequest.ofDefinition definition withKeys).compile dialect = .error fault ↔
          (TableRequest.ofColumns definition).compile dialect = .error fault) ∧
        ((TableRequest.ofDefinition definition withKeys).compile dialect = .error fault →
          fault.isOfKeyOrStorage = false) := by
  constructor
  · intro admitted storage distribution index
    exact ⟨fun code message about => admitted.keyError_iff about message,
      admitted.no_keyError_iff⟩
  · intro temporary storage definition made withKeys fault
    have same : (TableRequest.ofDefinition definition withKeys).compile dialect = .error fault ↔
        (TableRequest.ofColumns definition).compile dialect = .error fault := by
      rw [TableRequest.compile_eq_error_iff, TableRequest.compile_eq_error_iff,
        head?_faults_ofDefinition (excludesNullKeys_of_make made)]
    refine ⟨same, fun refused => ?_⟩
    exact TableRequest.isOfKeyOrStorage_of_mem_faults
      (TableRequest.mem_faults_of_compile (same.mp refused))

/-- Two names that are no columns, one of them given twice, behind a key that allows null; and a
table that is distributed and indexed by its key. -/
theorem TableDefinition.make_agrees_compile_orders :
    let number : Definition := {
      dialect := .synapse, type := "INT", length := none
      nullable := false, default := none, characterSet := none
      type_mem := by decide, characterSet_isSome := by decide }
    let columns : Columns := ⟨[⟨.plain, .text "ID", number, by decide⟩,
      ⟨.plain, .text "NOTE", { number with nullable := true }, by decide⟩], by decide, by decide⟩
    let keys : List Value := [.text "NOTE", .text "X", .text "Y", .text "X"]
    let storage : Storage := ⟨.hash "ID", .clustered ["ID"] (by decide)⟩
    TableRequest.EndsWith
      ((TableRequest.create ⟨"dbo", "orders"⟩ columns keys none none).compile .synapse)
      .primaryKeyNotInColumns "Trying to set X, Y, X as PKs but not present in columns" ∧
    ∃ definition,
      make ⟨"dbo", "orders"⟩ false columns [.text "ID"] (some storage) true = .ok definition ∧
        ∀ withKeys fault,
          (TableRequest.ofDefinition definition withKeys).compile .synapse = .error fault →
            fault.isOfKeyOrStorage = false := by
  intro number columns keys storage
  have agrees := make_agrees_compile .synapse ⟨"dbo", "orders"⟩ columns
  constructor
  · have admitted : Dialect.synapse.AdmitsParts ⟨"dbo", "orders"⟩ columns keys := {
      schema := by decide
      table := by decide
      count := by decide
      columns := List.forall_mem_cons.mpr ⟨⟨⟨"ID", rfl, by decide⟩, rfl⟩,
        List.forall_mem_singleton.mpr ⟨⟨"NOTE", rfl, by decide⟩, rfl⟩⟩
      keys := by
        have other : Dialect.synapse.AcceptsColumnName (.text "X") := ⟨"X", rfl, by decide⟩
        refine List.forall_mem_cons.mpr ⟨⟨"NOTE", rfl, by decide⟩, ?_⟩
        refine List.forall_mem_cons.mpr ⟨other, List.forall_mem_cons.mpr ⟨?_, ?_⟩⟩
        · exact ⟨"Y", rfl, by decide⟩
        · exact List.forall_mem_singleton.mpr other
      unmarked := fun _ => by decide }
    refine (((agrees keys).1 admitted none none none).1 _ _ (.inl rfl)).mp ?_
    exact ⟨.keysNotInColumns ["X", "Y", "X"], by rfl, rfl, by decide⟩
  · refine ⟨_, rfl, ?_⟩
    have made := (agrees [.text "ID"]).2 false (some storage) _ rfl
    exact fun withKeys fault => (made withKeys fault).2

end Warehouse
