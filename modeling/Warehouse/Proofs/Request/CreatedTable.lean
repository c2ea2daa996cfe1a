import Warehouse.Proofs.Request.Checks
import Warehouse.Proofs.Request.Naming

/-! # The table that a statement creates

The columns of a table have distinct names, and its keys and the columns of its storage are
among them; a request in which they are not is refused. No check asks for at least one column,
or for keys and indexed columns that are not given twice, so the table of an accepted request is
well formed exactly if the request has these properties by itself
(`TableRequest.compile_creates`). -/

namespace Warehouse

/-- The names in a statement that creates a table: of its columns, of its keys, of the columns
of its index and of the columns by which its rows are distributed. -/
structure CreatedTable where
  columns : List String
  keys : List String
  indexed : List String
  distributed : List String
deriving DecidableEq

namespace CreatedTable

/-- The table has columns, no two of one name, and its keys and the indexed columns are each
distinct columns of the table. -/
structure WellFormed (table : CreatedTable) : Prop where
  present : table.columns ≠ []
  distinct : table.columns.Nodup
  keys_distinct : table.keys.Nodup
  keys_columns : table.keys ⊆ table.columns
  indexed_distinct : table.indexed.Nodup
  indexed_columns : table.indexed ⊆ table.columns

/-- The names of all parts are names of columns. -/
def IsClosed (table : CreatedTable) : Prop :=
  table.keys ⊆ table.columns ∧ table.indexed ⊆ table.columns ∧ table.distributed ⊆ table.columns

/-- The names of the table in the order in which they are written. -/
def names (table : CreatedTable) : List String :=
  table.columns ++ table.keys ++ (table.indexed ++ table.distributed)

end CreatedTable

namespace TableRequest

/-- The table that a request creates, if it creates one. Only Synapse writes how it is
stored. -/
def created? (dialect : Dialect) : TableRequest → Option CreatedTable
  | create _ columns keys distribution index =>
      let stored := dialect = .synapse
      some {
        columns := columns.names.map Value.wording
        keys := keys.map Value.wording
        indexed := if stored then (index.map (·.columns)).getD [] else []
        distributed := if stored then (distribution.map (·.columns)).getD [] else [] }
  | createTemporary _ columns =>
      some ⟨columns.names.map Value.wording, [], [], []⟩
  | drop _ | truncate _ | rename _ _ => none

end TableRequest

/-! ## Names of columns -/

namespace Columns

variable {dialect : Dialect} {columns : Columns}

/-- Columns whose names are admitted have distinct texts for names. -/
theorem nodup_words (admitted : ∀ column ∈ columns.toList,
    dialect.AcceptsColumnName column.name ∧ column.dialect = dialect) :
    (columns.names.map Value.wording).Nodup := by
  have texts : columns.toList.map (·.name.comparable) =
      (columns.names.map Value.wording).map Value.text := by
    rw [names, List.map_map, List.map_map]
    refine List.map_congr_left fun column member => ?_
    obtain ⟨word, named, -⟩ := (admitted column member).1
    simp [named, Value.wording, Value.word?]
  have distinct := columns.nodup
  rw [texts] at distinct
  exact distinct.of_map

theorem mem_words {word : String} (present : ∃ column ∈ columns.toList, column.name = .text word) :
    word ∈ columns.names.map Value.wording := by
  obtain ⟨column, member, named⟩ := present
  exact List.mem_map.mpr ⟨column.name, List.mem_map_of_mem member, by rw [named]; rfl⟩

end Columns

namespace TableRequest

variable {dialect : Dialect} {request : TableRequest} {table : CreatedTable}

/-- The table of an acceptable request has columns with distinct names, and all its parts are
columns. -/
theorem IsAcceptable.created (acceptable : request.IsAcceptable dialect)
    (created : request.created? dialect = some table) :
    table.columns.Nodup ∧ table.IsClosed := by
  cases request with
  | create name columns keys distribution index =>
      cases created
      obtain ⟨-, -, own, keyed, stored⟩ := acceptable
      have named : ∀ given, given ⊆ storageColumns distribution index →
          (if dialect = .synapse then given else []) ⊆ columns.names.map Value.wording := by
        intro given within
        by_cases synapse : dialect = .synapse
        · rw [if_pos synapse]
          exact fun word member => Columns.mem_words ((stored synapse).2 word (within member)).2
        · rw [if_neg synapse]
          exact List.nil_subset _
      refine ⟨columns.nodup_words own, ?_, named _ (List.subset_append_right _ _),
        named _ (List.subset_append_left _ _)⟩
      intro word member
      obtain ⟨key, given, rfl⟩ := List.mem_map.mp member
      obtain ⟨⟨word, rfl, -⟩, column, there, same, -⟩ := keyed key given
      exact Columns.mem_words ⟨column, there, same⟩
  | createTemporary name columns =>
      cases created
      obtain ⟨-, -, -, own, -⟩ := acceptable
      exact ⟨columns.nodup_words own, List.nil_subset _, List.nil_subset _, List.nil_subset _⟩
  | drop | truncate | rename => cases created

/-- The statement writes the name of the table and then the names of its parts. -/
theorem namings_created (created : request.created? dialect = some table) :
    (request.namings dialect).map Prod.snd =
      [request.name.schema, request.name.table] ++ table.names := by
  cases request with
  | create name columns keys distribution index =>
      cases created
      by_cases synapse : dialect = .synapse <;>
        simp [namings, TableName.namings, CreatedTable.names, TableRequest.name, synapse]
  | createTemporary name columns =>
      cases created
      simp [namings, TableName.namings, CreatedTable.names, TableRequest.name]
  | drop | truncate | rename => cases created

/-- **What the table of an accepted request is like.** The statement writes the names of the
table; its columns have distinct names, and all its keys and the columns of its storage are
columns. It is well formed if besides there is a column and neither keys nor indexed columns
are given twice. A request in which a key or a column of the storage is no column is refused. -/
theorem compile_creates (created : request.created? dialect = some table) :
    (∀ sql, request.compile dialect = .ok sql →
      sql.quotedNames = [request.name.schema, request.name.table] ++ table.names ∧
        table.columns.Nodup ∧ table.IsClosed ∧
        (table.WellFormed ↔
          table.columns ≠ [] ∧ table.keys.Nodup ∧ table.indexed.Nodup)) ∧
      (¬ table.IsClosed → ∃ fault, request.compile dialect = .error fault) := by
  constructor
  · intro sql compiled
    obtain ⟨sound, rfl⟩ := compile_eq_ok_iff.mp compiled
    obtain ⟨distinct, closed⟩ := (faults_eq_nil_iff.mp sound).created created
    refine ⟨(quotedNames_sql sound).trans (namings_created created), distinct, closed, ?_⟩
    constructor
    · exact fun formed => ⟨formed.present, formed.keys_distinct, formed.indexed_distinct⟩
    · rintro ⟨present, keys, indexed⟩
      exact ⟨present, distinct, keys, closed.1, indexed, closed.2.1⟩
  · intro stray
    cases compiled : request.compile dialect with
    | error fault => exact ⟨fault, rfl⟩
    | ok sql =>
        have sound := (compile_eq_ok_iff.mp compiled).1
        exact absurd ((faults_eq_nil_iff.mp sound).created created).2 stray

/-- A table of two columns with a key, distributed by one column and indexed by both. -/
theorem compile_creates_orders :
    let number : Definition := {
      dialect := .synapse, type := "BIGINT", length := none
      nullable := false, default := none, characterSet := none
      type_mem := by decide, characterSet_isSome := by decide }
    let request : TableRequest := .create ⟨"dbo", "orders"⟩
      ⟨[⟨.plain, .text "nr", number, by decide⟩, ⟨.plain, .text "shop", number, by decide⟩],
        by decide, by decide⟩
      [.text "nr"] (some (.hash "shop")) (some (.clustered ["nr", "shop"] (by decide)))
    let table : CreatedTable := ⟨["nr", "shop"], ["nr"], ["nr", "shop"], ["shop"]⟩
    request.created? .synapse = some table ∧
      (∀ sql, request.compile .synapse = .ok sql →
        sql.quotedNames =
            ["dbo", "orders", "nr", "shop", "nr", "nr", "shop", "shop"] ∧
          table.columns.Nodup ∧ table.IsClosed ∧
          (table.WellFormed ↔
            table.columns ≠ [] ∧ table.keys.Nodup ∧ table.indexed.Nodup)) ∧
      ∃ sql, request.compile .synapse = .ok sql := by
  intro number request table
  have created : request.created? .synapse = some table := rfl
  refine ⟨created, (compile_creates created).1, ?_⟩
  exact ⟨request.sql .synapse, compile_eq_ok_iff.mpr ⟨by decide, rfl⟩⟩

/-- Tables without columns, with a key given twice and with an indexed column given twice are
created. -/
theorem compile_creates_illFormed :
    let number : Definition := {
      dialect := .synapse, type := "INT", length := none
      nullable := false, default := none, characterSet := none
      type_mem := by decide, characterSet_isSome := by decide }
    let columns : Columns := ⟨[⟨.plain, .text "id", number, by decide⟩], by decide, by decide⟩
    let bare : TableRequest := .create ⟨"s", "t"⟩ ⟨[], by decide, by decide⟩ [] none none
    let keyed : TableRequest := .create ⟨"s", "t"⟩ columns [.text "id", .text "id"] none none
    let indexed : TableRequest :=
      .create ⟨"s", "t"⟩ columns [] none (some (.clustered ["id", "id"] (by decide)))
    ((bare.compile .synapse).map (Sql.text .synapse) = .ok "CREATE TABLE [s].[t] ()" ∧
      ∃ table, bare.created? .synapse = some table ∧ ¬ table.WellFormed) ∧
    ((keyed.compile .synapse).map (Sql.text .synapse) = .ok ("CREATE TABLE [s].[t] " ++
        "([id] INT NOT NULL, PRIMARY KEY NONCLUSTERED([id],[id]) NOT ENFORCED)") ∧
      ∃ table, keyed.created? .synapse = some table ∧ ¬ table.WellFormed) ∧
    ((indexed.compile .synapse).map (Sql.text .synapse) = .ok ("CREATE TABLE [s].[t] " ++
        "([id] INT NOT NULL) WITH (CLUSTERED INDEX([id],[id]))") ∧
      ∃ table, indexed.created? .synapse = some table ∧ ¬ table.WellFormed) := by
  intro number columns bare keyed indexed
  refine ⟨⟨by decide, _, rfl, fun formed => formed.present rfl⟩,
    ⟨by decide, _, rfl, fun formed => ?_⟩, ⟨by decide, _, rfl, fun formed => ?_⟩⟩
  · exact absurd formed.keys_distinct (by decide)
  · exact absurd formed.indexed_distinct (by decide)

end TableRequest

end Warehouse
