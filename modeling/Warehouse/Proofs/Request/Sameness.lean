import Warehouse.Proofs.Datatype.Rendering
import Warehouse.Proofs.Request.Acceptance

/-! # Requests for tables taken for the same

Tables are taken for the same by the texts of their column types and by names as they are
compared, while a request checks names as they stand and the fields behind the texts. The
two agree (`TableRequest.compile_ofDefinition_eq_of_sameAs`), because names that are not
texts are refused before anything else is looked at, and because the text of a column type
tells what it allows. The one exception is Exasol, where the default of a key that allows
null can be written like the default of a key that excludes it
(`TableRequest.compile_keyedBy_ne`). -/

namespace Warehouse

variable {dialect : Dialect}

/-! ## Names as they are compared -/

theorem Value.word?_comparable (name : Value) : name.comparable.word? = name.word? := by
  cases name with
  | flag given => cases given <;> rfl
  | fractional digits =>
      simp only [comparable]
      split <;> rfl
  | null | number _ | text _ | list _ | map _ => rfl

theorem Dialect.columnNameFaults_comparable (name : Value) :
    dialect.columnNameFaults name.comparable = dialect.columnNameFaults name := by
  rw [columnNameFaults, columnNameFaults, Value.word?_comparable]

theorem Dialect.flatMap_columnNameFaults_eq {names others : List Value}
    (same : names.map Value.comparable = others.map Value.comparable) :
    names.flatMap dialect.columnNameFaults = others.flatMap dialect.columnNameFaults := by
  have compared (names : List Value) : names.flatMap dialect.columnNameFaults =
      (names.map Value.comparable).flatMap dialect.columnNameFaults := by
    simp only [List.flatMap_map, columnNameFaults_comparable]
  rw [compared names, compared others, same]

theorem Dialect.AcceptsColumnName.comparable_eq {name : Value}
    (accepted : dialect.AcceptsColumnName name) : name.comparable = name := by
  obtain ⟨word, rfl, -⟩ := accepted
  rfl

theorem Dialect.map_comparable_eq {names : List Value}
    (accepted : ∀ name ∈ names, dialect.AcceptsColumnName name) :
    names.map Value.comparable = names :=
  (List.map_congr_left fun name member => (accepted name member).comparable_eq).trans
    (List.map_id names)

/-! ## Columns taken for the same -/

namespace Columns

variable {first second : Columns} (same : first.sameAs second = true)

theorem canonical_eq_key {columns : Columns}
    (accepted : ∀ name ∈ columns.names, dialect.AcceptsColumnName name) :
    columns.canonical = columns.key :=
  List.map_congr_left fun column member =>
    congrArg (·, column.definition.sql)
      (accepted column.name (List.mem_map_of_mem member)).comparable_eq.symm

theorem sql_eq_of_canonical (same : first.canonical = second.canonical) (separator : String) :
    first.sql separator = second.sql separator := by
  have written (columns : Columns) : columns.toList.map Column.sql =
      columns.canonical.map fun shown => [.name shown.1.wording, .plain (" " ++ shown.2)] := by
    rw [canonical, List.map_map]
    rfl
  rw [sql, sql, written first, written second, same]

include same

theorem key_eq_of_sameAs : first.key = second.key := of_decide_eq_true same

theorem map_comparable_names_eq :
    first.names.map Value.comparable = second.names.map Value.comparable := by
  have compared (columns : Columns) :
      columns.names.map Value.comparable = columns.key.map Prod.fst := by
    rw [names, key, List.map_map, List.map_map]
    rfl
  rw [compared first, compared second, key_eq_of_sameAs same]

theorem size_eq : first.size = second.size := by
  have counted (columns : Columns) : columns.size = columns.key.length := by
    rw [size, key, List.length_map]
  rw [counted first, counted second, key_eq_of_sameAs same]

theorem has_eq (name : Value) : first.has name = second.has name := by
  rw [Bool.eq_iff_iff, has_iff, has_iff, map_comparable_names_eq same]

/-- Both lists have a column of a name or neither has, with the same text of its type. -/
theorem find?_map_key_eq (name : Value) :
    (first.find? name).map Column.key = (second.find? name).map Column.key := by
  have found (columns : Columns) : (columns.find? name).map Column.key =
      columns.key.find? (·.1 = name.comparable) := by
    rw [key, List.find?_map]
    rfl
  rw [found first, found second, key_eq_of_sameAs same]

theorem sql_eq_of_find? {name : Value} {column other : Column}
    (found : first.find? name = some column) (found' : second.find? name = some other) :
    column.definition.sql = other.definition.sql := by
  have keys := find?_map_key_eq same name
  rw [found, found'] at keys
  exact congrArg Prod.snd (Option.some.inj keys)

theorem nullableAmong_eq {names : List Value}
    (agree : ∀ name ∈ names, ∀ column ∈ first.find? name, ∀ other ∈ second.find? name,
      column.definition = other.definition) :
    first.nullableAmong names = second.nullableAmong names := by
  refine List.filter_congr fun name member => ?_
  have keys := find?_map_key_eq same name
  cases found : first.find? name with
  | none =>
      rw [found] at keys
      rw [Option.map_eq_none_iff.mp keys.symm]
  | some column =>
      rw [found] at keys
      obtain ⟨other, found', -⟩ := Option.map_eq_some_iff.mp keys.symm
      rw [found', Option.any_some, Option.any_some, agree name member column found other found']

end Columns

/-! ## Tables taken for the same -/

namespace Dialect

/-- The faults of names and numbers, which are found before anything else. -/
def namingFaults (dialect : Dialect) (name : TableName) (columns : Columns)
    (keys : List Value) : List RequestFault :=
  dialect.tableNameFaults name ++ dialect.columnCountFaults columns ++
    (columns.names ++ keys).flatMap dialect.columnNameFaults

variable {columns : Columns} {keys : List Value}

/-- Columns of the dialect and keys among them have no faults but those of names and those
of keys that allow null. -/
theorem creationFaults_eq (own : ∀ column ∈ columns.toList, column.dialect = dialect)
    (present : columns.missing keys = []) (name : TableName) :
    dialect.creationFaults name columns keys = dialect.namingFaults name columns keys ++
      (columns.nullableAmong keys).map fun key => .nullableKey key.wording := by
  have names : columns.toList.flatMap dialect.columnFaults =
      columns.names.flatMap dialect.columnNameFaults := by
    rw [Columns.names, List.flatMap_map]
    refine List.flatMap_congr fun column member => ?_
    rw [columnFaults, if_pos (own column member), List.append_nil]
  simp only [creationFaults, keyFaults, namingFaults, names, present, ↓reduceIte, List.append_nil,
    List.flatMap_append, List.append_assoc]

theorem namingFaults_eq {others : Columns} {partners : List Value}
    (same : columns.sameAs others = true)
    (sameKeys : keys.map Value.comparable = partners.map Value.comparable) (name : TableName) :
    dialect.namingFaults name columns keys = dialect.namingFaults name others partners := by
  have names : (columns.names ++ keys).map Value.comparable =
      (others.names ++ partners).map Value.comparable := by
    rw [List.map_append, List.map_append, Columns.map_comparable_names_eq same, sameKeys]
  rw [namingFaults, namingFaults, flatMap_columnNameFaults_eq names, columnCountFaults,
    columnCountFaults, Columns.size_eq same]

theorem acceptsColumnName_of_namingFaults {name : TableName}
    (none : dialect.namingFaults name columns keys = []) :
    ∀ given ∈ columns.names ++ keys, dialect.AcceptsColumnName given := by
  intro given member
  have faults := (List.append_eq_nil_iff.mp none).2
  exact columnNameFaults_eq_nil_iff.mp (List.flatMap_eq_nil_iff.mp faults given member)

/-- Without faults of names, lists that are taken for the same are the same. -/
theorem eq_of_namingFaults {others : Columns} {partners : List Value} {name : TableName}
    (same : columns.sameAs others = true)
    (sameKeys : keys.map Value.comparable = partners.map Value.comparable)
    (none : dialect.namingFaults name columns keys = []) :
    columns.canonical = others.canonical ∧ keys = partners := by
  have accepted := acceptsColumnName_of_namingFaults none
  rw [namingFaults_eq same sameKeys] at none
  have accepted' := acceptsColumnName_of_namingFaults none
  constructor
  · calc columns.canonical = columns.key :=
          Columns.canonical_eq_key fun given member => accepted given (List.mem_append_left _ member)
      _ = others.key := Columns.key_eq_of_sameAs same
      _ = others.canonical := (Columns.canonical_eq_key fun given member =>
          accepted' given (List.mem_append_left _ member)).symm
  · calc keys = keys.map Value.comparable :=
          (map_comparable_eq fun given member =>
            accepted given (List.mem_append_right _ member)).symm
      _ = partners.map Value.comparable := sameKeys
      _ = partners := map_comparable_eq fun given member =>
          accepted' given (List.mem_append_right _ member)

theorem storageColumnFaults_eq {others : Columns} (same : columns.sameAs others = true) :
    dialect.storageColumnFaults columns = dialect.storageColumnFaults others := by
  funext name
  rw [storageColumnFaults, storageColumnFaults, Columns.has_eq same]

end Dialect

namespace TableRequest

/-- Requests with the same first faults are compiled alike if they agree on everything else
in the case that there are no first faults. -/
theorem compile_eq_of_faults {first second : TableRequest}
    {early late late' : List RequestFault} (faults : first.faults dialect = early ++ late)
    (faults' : second.faults dialect = early ++ late')
    (agree : early = [] → late = late' ∧ first.sql dialect = second.sql dialect) :
    first.compile dialect = second.compile dialect := by
  unfold compile
  rw [faults, faults']
  -- Only the first fault is reported, so what differs behind it is not seen.
  cases early with
  | nil =>
      obtain ⟨rfl, same⟩ := agree rfl
      rw [same]
  | cons fault rest => rfl

variable {first second : Columns} {keys partners : List Value}

theorem faults_create_eq (own : ∀ column ∈ first.toList, column.dialect = dialect)
    (present : first.missing keys = []) (name : TableName)
    (distribution : Option Distribution) (index : Option Index) :
    (create name first keys distribution index).faults dialect =
      dialect.namingFaults name first keys ++
        ((first.nullableAmong keys).map (fun key => .nullableKey key.wording) ++
          if dialect = .synapse then
            (if hasSessionMark name.table then [.reservedTableName name.table] else []) ++
              (storageColumns distribution index).flatMap (dialect.storageColumnFaults first)
          else []) := by
  rw [faults, Dialect.creationFaults_eq own present, List.append_assoc]

theorem faults_createTemporary_eq (own : ∀ column ∈ first.toList, column.dialect = dialect)
    (name : TableName) (temporaries : dialect ≠ .exasol) :
    (createTemporary name first).faults dialect = dialect.namingFaults name first [] ++
      if dialect = .synapse ∧ ¬ hasSessionMark name.table then [.sessionMarkMissing name.table]
      else [] := by
  rw [faults, if_neg temporaries, Dialect.creationFaults_eq own rfl, List.append_assoc]
  rfl

section

variable (same : first.sameAs second = true)
  (own : ∀ column ∈ first.toList, column.dialect = dialect)
  (own' : ∀ column ∈ second.toList, column.dialect = dialect)

include same own own'

theorem compile_create_eq
    (sameKeys : keys.map Value.comparable = partners.map Value.comparable)
    (present : first.missing keys = []) (present' : second.missing partners = [])
    (nullable : first.nullableAmong keys = second.nullableAmong keys) (name : TableName)
    (distribution : Option Distribution) (index : Option Index) :
    (create name first keys distribution index).compile dialect =
      (create name second partners distribution index).compile dialect := by
  have late := faults_create_eq own' present' name distribution index
  rw [← Dialect.namingFaults_eq same sameKeys] at late
  refine compile_eq_of_faults (faults_create_eq own present name distribution index) late
    fun none => ?_
  obtain ⟨canonical, rfl⟩ := Dialect.eq_of_namingFaults same sameKeys none
  constructor
  · rw [nullable, Dialect.storageColumnFaults_eq same]
  · simp only [sql, TableLayout.sql, Columns.sql_eq_of_canonical canonical]

theorem compile_createTemporary_eq (name : TableName) :
    (createTemporary name first).compile dialect =
      (createTemporary name second).compile dialect := by
  by_cases exasol : dialect = .exasol
  · simp only [compile, faults, exasol, ↓reduceIte]
  have late := faults_createTemporary_eq own' name exasol
  rw [← Dialect.namingFaults_eq same rfl] at late
  refine compile_eq_of_faults (faults_createTemporary_eq own name exasol) late fun none => ?_
  obtain ⟨canonical, -⟩ := Dialect.eq_of_namingFaults same rfl none
  refine ⟨rfl, ?_⟩
  simp only [sql, TableLayout.sql, Columns.sql_eq_of_canonical canonical]

end

end TableRequest

namespace TableDefinition

variable {first second : TableDefinition}

theorem sameAs_iff : first.sameAs second = true ↔
    first.name = second.name ∧ first.temporary = second.temporary ∧
      first.columns.sameAs second.columns = true ∧
      first.primaryKeys.map Value.comparable = second.primaryKeys.map Value.comparable ∧
      first.storage = second.storage := by
  simp only [sameAs, Bool.and_eq_true, decide_eq_true_eq, and_assoc]

/-- In one of the tables a key column has the default of its counterpart in the other with
the constraint against null behind it. -/
def KeysMimic (first second : TableDefinition) : Prop :=
  ∃ key ∈ first.primaryKeys, ∃ column ∈ first.columns.find? key,
    ∃ other ∈ second.columns.find? key,
      column.definition.Mimics other.definition ∨ other.definition.Mimics column.definition

/-- Tables that are taken for the same have the same column types at their keys. -/
theorem definition_eq_of_sameAs (same : first.columns.sameAs second.columns = true)
    (own : ∀ column ∈ first.columns.toList, column.dialect = dialect)
    (own' : ∀ column ∈ second.columns.toList, column.dialect = dialect)
    (apart : dialect = .exasol → ¬ first.KeysMimic second) :
    ∀ key ∈ first.primaryKeys, ∀ column ∈ first.columns.find? key,
      ∀ other ∈ second.columns.find? key, column.definition = other.definition := by
  intro key member column found other found'
  have here : column.definition.dialect = dialect := own column (List.mem_of_find?_eq_some found)
  have there : other.definition.dialect = dialect := own' other (List.mem_of_find?_eq_some found')
  refine Definition.eq_of_sql_eq (here.trans there.symm) (fun exasol => ?_)
    (Columns.sql_eq_of_find? same found found')
  refine not_or.mp fun mimics => apart (here.symm.trans exasol) ?_
  exact ⟨key, member, column, found, other, found', mimics⟩

end TableDefinition

namespace TableRequest

variable {first second : TableDefinition}

/-- **Tables that are taken for the same are compiled alike**, to the same statement or the
same fault. Only in Exasol, where keys are asked for and the table is not temporary, no key
column may have the default of its counterpart with the constraint against null behind it.
Likewise the texts of the column types tell everything about the types of key columns, whether
they allow null included. -/
theorem compile_ofDefinition_eq_of_sameAs (same : first.sameAs second = true)
    (own : ∀ column ∈ first.columns.toList ++ second.columns.toList, column.dialect = dialect) :
    (∀ withKeys : Bool,
      (dialect = .exasol → withKeys = true → first.temporary = false →
        ¬ first.KeysMimic second) →
      (ofDefinition first withKeys).compile dialect =
        (ofDefinition second withKeys).compile dialect) ∧
    ((dialect = .exasol → ¬ first.KeysMimic second) →
      ∀ key ∈ first.primaryKeys, ∀ column ∈ first.columns.find? key,
        ∀ other ∈ second.columns.find? key, column.definition = other.definition) := by
  obtain ⟨name, temporary, columns, keys, storage⟩ := TableDefinition.sameAs_iff.mp same
  obtain ⟨own, own'⟩ := List.forall_mem_append.mp own
  have sameTypes := TableDefinition.definition_eq_of_sameAs columns own own'
  refine ⟨fun withKeys apart => ?_, sameTypes⟩
  unfold ofDefinition
  rw [← name, ← temporary, ← storage]
  cases kind : first.temporary with
  | true => exact compile_createTemporary_eq columns own own' first.name
  | false =>
      simp only [Bool.false_eq_true, ↓reduceIte]
      cases withKeys with
      | false => exact compile_create_eq columns own own' rfl rfl rfl rfl first.name _ _
      | true =>
          have nullable := Columns.nullableAmong_eq columns
            (sameTypes fun exasol => apart exasol rfl kind)
          exact compile_create_eq columns own own' keys first.keys_present second.keys_present
            nullable first.name _ _

/-- A column of Exasol under the name of a key. -/
def keyColumn (kind : ColumnKind) (nullable : Bool) (default : String) : Column where
  kind := kind
  name := .text "id"
  definition := {
    dialect := .exasol, type := "DECIMAL", length := some ⟨"18,0", rfl⟩
    nullable := nullable, default := some default, characterSet := none
    type_mem := by decide, characterSet_isSome := rfl }
  named := rfl

/-- A table of Exasol with one column, which is its key. -/
def keyedBy (kind : ColumnKind) (nullable : Bool) (default : String) : TableDefinition where
  name := ⟨"shop", "orders"⟩
  temporary := false
  columns := ⟨[keyColumn kind nullable default], by simp [keyColumn, Value.isStructured], by simp⟩
  primaryKeys := [.text "id"]
  storage := none
  keys_present := by simp [Columns.missing, Columns.has, keyColumn]
  storage_present := by simp

/-- Tables whose keys are declared differently are taken for the same and compiled alike. -/
theorem compile_ofDefinition_eq_of_sameAs_bound :
    let first := keyedBy .plain false "0"
    let second := keyedBy (.bound .exasol) false "0"
    first ≠ second ∧ first.sameAs second = true ∧
      (∀ column ∈ first.columns.toList ++ second.columns.toList, column.dialect = .exasol) ∧
      ¬ first.KeysMimic second ∧
      (ofDefinition first true).compile .exasol = (ofDefinition second true).compile .exasol := by
  intro first second
  have same : first.sameAs second = true := by decide
  have own : ∀ column ∈ first.columns.toList ++ second.columns.toList,
      column.dialect = .exasol := by
    simp [first, second, keyedBy, keyColumn, Column.dialect]
  have zero : ∀ column ∈ first.columns.toList ++ second.columns.toList,
      column.definition.default = some "0" := by
    simp [first, second, keyedBy, keyColumn]
  have apart : ¬ first.KeysMimic second := by
    rintro ⟨key, -, column, found, other, found', mimics⟩
    have here := zero column (List.mem_append_left _ (List.mem_of_find?_eq_some found))
    have there := zero other (List.mem_append_right _ (List.mem_of_find?_eq_some found'))
    simp [Definition.Mimics, here, there] at mimics
  refine ⟨fun equal => ?_, same, own, apart, ?_⟩
  · have kinds : [ColumnKind.plain] = [.bound .exasol] :=
      congrArg (fun table : TableDefinition => table.columns.toList.map Column.kind) equal
    cases kinds
  · exact (compile_ofDefinition_eq_of_sameAs same own).1 true fun _ _ _ => apart

/-- A key that allows null is told from one that excludes it although both tables are taken
for the same: the default of the first is written like default and constraint of the second. -/
theorem compile_keyedBy_ne :
    let first := keyedBy .plain true "0 NOT NULL"
    let second := keyedBy .plain false "0"
    first.sameAs second = true ∧
      (∀ column ∈ first.columns.toList ++ second.columns.toList, column.dialect = .exasol) ∧
      (ofDefinition first true).compile .exasol = .error (.nullableKey "id") ∧
      ((ofDefinition second true).compile .exasol).map (Sql.text .exasol) =
        .ok ("CREATE TABLE \"shop\".\"orders\" (\"id\" DECIMAL (18,0) DEFAULT 0 NOT NULL, " ++
          "CONSTRAINT PRIMARY KEY (\"id\"))") := by
  decide

end TableRequest

end Warehouse
