import Warehouse.Proofs.Request.Clauses
import Warehouse.Proofs.Table.Making

/-! # Requests are told apart by their statements

The text of a statement begins with fixed words up to the first quoted name, which tell
the operation. Behind them stand the name of the table and a remainder that depends on
the operation. From the left to the right, each of these parts is cut off the text, so
that nothing a request asks for is lost (`TableRequest.text_eq_iff`). -/

namespace Warehouse

open Sql

/-- What is asked for a table. -/
inductive TableOperation where
  | create
  | createTemporary
  | drop
  | truncate
  | rename
deriving DecidableEq

/-- The words in front of the name of the table. -/
def Dialect.words (dialect : Dialect) : TableOperation → String
  | .create => (dialect.tableLayout true).opening
  | .createTemporary => dialect.temporaryLayout.opening
  | .drop => "DROP TABLE "
  | .truncate =>
      match dialect with
      | .teradata => "DELETE "
      | .synapse | .exasol | .snowflake => "TRUNCATE TABLE "
  | .rename =>
      match dialect with
      | .synapse => "RENAME OBJECT "
      | .teradata | .exasol => "RENAME TABLE "
      | .snowflake => "ALTER TABLE "

/-- The first words tell the operation, except that Synapse creates tables of a session with
the same words as any other. -/
theorem Dialect.operation_eq_of_words {dialect : Dialect} {first second : TableOperation}
    (same : dialect.words first = dialect.words second) :
    first = second ∨ dialect = .synapse ∧
      (first = .create ∧ second = .createTemporary ∨
        first = .createTemporary ∧ second = .create) := by
  cases dialect <;> cases first <;> cases second <;>
    first
    | exact .inl rfl
    | exact absurd same (by decide)
    | exact .inr (by decide)

theorem Dialect.opening_not_mem_words (dialect : Dialect) (operation : TableOperation) :
    dialect.quoteStyle.opening ∉ (dialect.words operation).toList := by
  cases dialect <;> cases operation <;> decide

namespace TableRequest

/-- The operation that a request asks for. -/
def operation : TableRequest → TableOperation
  | create .. => .create
  | createTemporary .. => .createTemporary
  | drop _ => .drop
  | truncate _ => .truncate
  | rename .. => .rename

/-- The name of the table that a request is about. -/
def name : TableRequest → TableName
  | create name _ _ _ _ | createTemporary name _ | drop name | truncate name | rename name _ => name

/-- The statement for a request behind the name of the table. -/
def remainder (dialect : Dialect) : TableRequest → Sql
  | create _ columns keys distribution index =>
      let layout := dialect.tableLayout (keys ≠ [])
      .plain layout.beforeColumns :: columns.sql layout.separator ++ dialect.keyLayout.sql keys ++
        .plain layout.closing ::
          (if dialect = .synapse then storageClause distribution index else [])
  | createTemporary _ columns =>
      let layout := dialect.temporaryLayout
      .plain layout.beforeColumns :: columns.sql layout.separator ++ [.plain layout.closing]
  | drop _ => []
  | truncate _ =>
      match dialect with
      | .teradata => [.plain " ALL"]
      | .synapse | .exasol | .snowflake => []
  | rename name newTable =>
      match dialect with
      | .synapse | .exasol => [.plain " TO ", .name newTable]
      | .teradata => .plain " AS " :: qualified name.schema newTable
      | .snowflake => .plain " RENAME TO " :: qualified name.schema newTable

variable {dialect : Dialect} {request : TableRequest}

theorem sql_eq (dialect : Dialect) (request : TableRequest) :
    request.sql dialect = .plain (dialect.words request.operation) ::
      qualified request.name.schema request.name.table ++ request.remainder dialect := by
  cases request with
  | create name columns keys distribution index =>
      have opening : ∀ keyed, (dialect.tableLayout keyed).opening = dialect.words .create := by
        cases dialect <;> exact fun _ => rfl
      simp [sql, remainder, operation, TableRequest.name, TableLayout.sql, opening]
  | createTemporary name columns =>
      simp [sql, remainder, operation, TableRequest.name, TableLayout.sql, Dialect.words]
  | drop name => simp [sql, remainder, operation, TableRequest.name, Dialect.words]
  | truncate name =>
      cases dialect <;> simp [sql, remainder, operation, TableRequest.name, Dialect.words]
  | rename name newTable =>
      cases dialect <;> simp [sql, remainder, operation, TableRequest.name, Dialect.words]

/-- Nothing that stands behind the name of a table closes a quoted name. -/
theorem head?_remainder (dialect : Dialect) (request : TableRequest) :
    (chars dialect (request.remainder dialect)).head? ≠ some dialect.quoteStyle.closing := by
  have opens : ∀ c ∈ (chars dialect (request.remainder dialect)).head?, c = ' ' ∨ c = ',' := by
    cases request <;> cases dialect <;>
      simp [remainder, Dialect.tableLayout, Dialect.temporaryLayout]
  intro mark
  rcases opens _ mark with space | comma
  · exact dialect.closing_ne (by decide) (by decide) space
  · exact dialect.closing_ne (by decide) (by decide) comma

/-- Words, name of the table and remainder of a statement are told apart. -/
theorem parts_eq_of_chars_eq {first second : TableRequest} (present : first.name.schema ≠ "")
    (present' : second.name.schema ≠ "")
    (same : chars dialect (first.sql dialect) = chars dialect (second.sql dialect)) :
    dialect.words first.operation = dialect.words second.operation ∧ first.name = second.name ∧
      chars dialect (first.remainder dialect) = chars dialect (second.remainder dialect) := by
  have stops : ∀ name : TableName, name.schema ≠ "" → ∀ rest : List Char,
      ∀ c ∈ (chars dialect (qualified name.schema name.table) ++ rest).head?,
        decide (c ≠ dialect.quoteStyle.opening) = false := by
    intro name present rest c here
    simp only [qualified, present, ↓reduceIte, chars_name, QuoteStyle.toList_quoteName,
      List.cons_append, List.head?_cons, Option.mem_some_iff] at here
    simp [here]
  have plain : ∀ operation, ∀ c ∈ (dialect.words operation).toList,
      decide (c ≠ dialect.quoteStyle.opening) = true := fun operation c member =>
    decide_eq_true fun mark => dialect.opening_not_mem_words operation (mark ▸ member)
  simp only [sql_eq, chars_plain, chars_append, List.cons_append] at same
  obtain ⟨words, left⟩ := append_inj_of_head (plain _) (plain _) (stops _ present _)
    (stops _ present' _) same
  obtain ⟨schemas, tables, left⟩ := qualified_inj present present'
    (head?_remainder dialect first) (head?_remainder dialect second) left
  refine ⟨String.toList_inj.mp words, ?_, left⟩
  rw [TableName.mk.injEq]
  exact ⟨schemas, tables⟩

/-! ## Readable requests -/

/-- A request that can be read back from its statement. -/
def IsReadable (dialect : Dialect) : TableRequest → Prop
  | create name columns keys distribution index =>
      (∀ column ∈ columns.toList, column.IsReadable dialect) ∧
        (∀ key ∈ keys, ∃ word, key = .text word) ∧
        if dialect = .synapse then ¬ hasSessionMark name.table
        else distribution = none ∧ index = none
  | createTemporary name columns =>
      (∀ column ∈ columns.toList, column.IsReadable dialect) ∧
        (dialect = .synapse → hasSessionMark name.table)
  | drop _ | truncate _ | rename _ _ => True

theorem operation_eq_of_words {first second : TableRequest}
    (readable : first.IsReadable dialect) (readable' : second.IsReadable dialect)
    (names : first.name = second.name)
    (words : dialect.words first.operation = dialect.words second.operation) :
    first.operation = second.operation := by
  rcases dialect.operation_eq_of_words words with same | ⟨rfl, differs⟩
  · exact same
  · cases first <;> cases second <;> simp_all [operation, IsReadable, TableRequest.name]

theorem create_inj {name name' : TableName} {columns columns' : Columns} {keys keys' : List Value}
    {distribution distribution' : Option Distribution} {index index' : Option Index}
    (readable : (create name columns keys distribution index).IsReadable dialect)
    (readable' : (create name' columns' keys' distribution' index').IsReadable dialect)
    (same : chars dialect ((create name columns keys distribution index).remainder dialect) =
      chars dialect ((create name' columns' keys' distribution' index').remainder dialect)) :
    columns = columns' ∧ keys = keys' ∧ distribution = distribution' ∧ index = index' := by
  obtain ⟨columnsReadable, named, stored⟩ := readable
  obtain ⟨columnsReadable', named', stored'⟩ := readable'
  simp only [remainder, chars_plain, chars_append, List.cons_append, List.append_assoc] at same
  rw [dialect.tableLayout_beforeColumns (keys' ≠ []) (keys ≠ []),
    dialect.tableLayout_separator (keys' ≠ []) (keys ≠ [])] at same
  obtain ⟨rfl, left⟩ := Columns.separates_sql dialect (dialect.comma_tableLayout (keys ≠ []))
    columnsReadable columnsReadable' (endsColumns_keys _ (dialect.closed_tableLayout _ _))
    (endsColumns_keys _ (dialect.closed_tableLayout _ _)) (List.append_cancel_left same)
  obtain ⟨rfl, left⟩ := KeyLayout.separates_sql dialect named named'
    (dialect.closed_tableLayout _ _) (dialect.closed_tableLayout _ _) left
  have left := List.append_cancel_left left
  by_cases synapse : dialect = .synapse
  · simp only [synapse, ↓reduceIte] at left
    obtain ⟨rfl, rfl⟩ := storageClause_inj left
    exact ⟨rfl, rfl, rfl, rfl⟩
  · simp only [synapse, ↓reduceIte] at stored stored'
    obtain ⟨rfl, rfl⟩ := stored
    obtain ⟨rfl, rfl⟩ := stored'
    exact ⟨rfl, rfl, rfl, rfl⟩

theorem createTemporary_inj {name name' : TableName} {columns columns' : Columns}
    (readable : (createTemporary name columns).IsReadable dialect)
    (readable' : (createTemporary name' columns').IsReadable dialect)
    (same : chars dialect ((createTemporary name columns).remainder dialect) =
      chars dialect ((createTemporary name' columns').remainder dialect)) :
    columns = columns' := by
  have comma : dialect.temporaryLayout.separator.toList.head? = some ',' := by
    cases dialect <;> rfl
  have closed : dialect.temporaryLayout.closing.toList.head? = some ')' := by
    cases dialect <;> rfl
  simp only [remainder, chars_plain, chars_append, List.cons_append, chars_nil, List.append_nil,
    List.append_cancel_left_eq] at same
  exact (Columns.separates_sql dialect comma readable.1 readable'.1
    (endsColumns_of_closed comma closed) (endsColumns_of_closed comma closed) same).1

theorem rename_inj {name : TableName} (present : name.schema ≠ "") {newTable newTable' : String}
    (same : chars dialect ((rename name newTable).remainder dialect) =
      chars dialect ((rename name newTable').remainder dialect)) : newTable = newTable' := by
  have ends : ([] : List Char).head? ≠ some dialect.quoteStyle.closing := nofun
  cases dialect with
  | synapse | exasol =>
      simp only [remainder, chars_plain, chars_name, chars_nil, List.append_cancel_left_eq] at same
      exact (QuoteStyle.separates_quoteName _ trivial trivial ends ends same).1
  | teradata | snowflake =>
      simp only [remainder, chars_plain, List.append_cancel_left_eq] at same
      have same := congrArg (· ++ []) same
      exact (qualified_inj present present ends ends same).2.1

/-- Readable requests with the same statement are the same. -/
theorem eq_of_chars_eq {first second : TableRequest}
    (readable : first.IsReadable dialect) (readable' : second.IsReadable dialect)
    (present : first.name.schema ≠ "") (present' : second.name.schema ≠ "")
    (same : chars dialect (first.sql dialect) = chars dialect (second.sql dialect)) :
    first = second := by
  obtain ⟨words, names, left⟩ := parts_eq_of_chars_eq present present' same
  have operations := operation_eq_of_words readable readable' names words
  cases first with
  | create name columns keys distribution index =>
      cases second <;> simp only [operation, reduceCtorEq] at operations
      cases names
      obtain ⟨rfl, rfl, rfl, rfl⟩ := create_inj readable readable' left
      rfl
  | createTemporary name columns =>
      cases second <;> simp only [operation, reduceCtorEq] at operations
      cases names
      obtain rfl := createTemporary_inj readable readable' left
      rfl
  | drop name =>
      cases second <;> simp only [operation, reduceCtorEq] at operations
      cases names
      rfl
  | truncate name =>
      cases second <;> simp only [operation, reduceCtorEq] at operations
      cases names
      rfl
  | rename name newTable =>
      cases second <;> simp only [operation, reduceCtorEq] at operations
      cases names
      obtain rfl := rename_inj present left
      rfl

/-! ## What a statement says -/

/-- What a request asks of a dialect. How its columns were declared is left out, and so is a
storage where the dialect has none. -/
def content (dialect : Dialect) : TableRequest → TableRequest
  | create name columns keys distribution index =>
      if dialect = .synapse then create name columns.plainly keys distribution index
      else create name columns.plainly keys none none
  | createTemporary name columns => createTemporary name columns.plainly
  | drop name => drop name
  | truncate name => truncate name
  | rename name newTable => rename name newTable

/-- All defaults can be read back from the statement for the request. -/
def HasReadableDefaults : TableRequest → Prop
  | create _ columns _ _ _ | createTemporary _ columns =>
      ∀ column ∈ columns.toList, column.definition.HasReadableDefault
  | drop _ | truncate _ | rename _ _ => True

/-- A statement depends on nothing but the content of its request. -/
theorem sql_content (dialect : Dialect) (request : TableRequest) :
    (request.content dialect).sql dialect = request.sql dialect := by
  have plainly : ∀ (columns : Columns) (separator : String),
      columns.plainly.sql separator = columns.sql separator := by
    intro columns separator
    simp only [Columns.sql, Columns.plainly, List.map_map]
    rfl
  cases request with
  | create name columns keys distribution index =>
      by_cases synapse : dialect = .synapse <;>
        simp [content, sql, synapse, TableLayout.sql, plainly]
  | createTemporary name columns => simp [content, sql, TableLayout.sql, plainly]
  | drop | truncate | rename => rfl

theorem name_content (dialect : Dialect) (request : TableRequest) :
    (request.content dialect).name = request.name := by
  cases request with
  | create => by_cases synapse : dialect = .synapse <;> simp [content, TableRequest.name, synapse]
  | createTemporary | drop | truncate | rename => rfl

/-- An accepted request to create a table is accepted as a creation in any dialect is. -/
theorem creationFaults_of_createTemporary {name : TableName} {columns : Columns}
    (sound : (createTemporary name columns).faults dialect = []) :
    dialect.creationFaults name columns [] = [] ∧
      (dialect = .synapse → hasSessionMark name.table = true) := by
  rw [faults] at sound
  by_cases exasol : dialect = .exasol
  · simp [exasol] at sound
  · rw [if_neg exasol, List.append_eq_nil_iff] at sound
    refine ⟨sound.1, fun synapse => ?_⟩
    simpa [synapse] using sound.2

theorem schema_ne_empty (sound : request.faults dialect = []) : request.name.schema ≠ "" := by
  have accepted : dialect.tableNameFaults request.name = [] := by
    cases request with
    | create =>
        simp only [faults, Dialect.creationFaults, List.append_eq_nil_iff] at sound
        exact sound.1.1.1.1
    | createTemporary =>
        have created := (creationFaults_of_createTemporary sound).1
        simp only [Dialect.creationFaults, List.append_eq_nil_iff] at created
        exact created.1.1.1
    | drop | truncate => exact sound
    | rename => exact (List.append_eq_nil_iff.mp sound).1
  have schema := (Dialect.tableNameFaults_eq_nil_iff.mp accepted).1
  intro empty
  rw [empty] at schema
  revert schema
  cases dialect <;> decide

theorem isReadable_plainly {columns : Columns}
    (admitted : ∀ column ∈ columns.toList,
      dialect.AcceptsColumnName column.name ∧ column.dialect = dialect)
    (readable : ∀ column ∈ columns.toList, column.definition.HasReadableDefault) :
    ∀ column ∈ columns.plainly.toList, column.IsReadable dialect := by
  intro column member
  obtain ⟨declared, here, rfl⟩ := List.mem_map.mp member
  obtain ⟨⟨word, named, -⟩, own⟩ := admitted declared here
  exact ⟨rfl, ⟨word, named⟩, own, readable declared here⟩

theorem isReadable_content (sound : request.faults dialect = [])
    (readable : request.HasReadableDefaults) : (request.content dialect).IsReadable dialect := by
  cases request with
  | create name columns keys distribution index =>
      obtain ⟨created, stored⟩ := List.append_eq_nil_iff.mp sound
      obtain ⟨-, -, admitted, keyed⟩ := Dialect.creationFaults_eq_nil_iff.mp created
      have named : ∀ key ∈ keys, ∃ word, key = .text word := fun key member =>
        ((Dialect.keyFaults_eq_nil_iff.mp keyed).1 key member).imp fun _ => And.left
      by_cases synapse : dialect = .synapse
      · rw [if_pos synapse, List.append_eq_nil_iff] at stored
        have unmarked : ¬ hasSessionMark name.table = true := by simpa using stored.1
        simpa [content, synapse, IsReadable, unmarked] using
          And.intro (isReadable_plainly (synapse ▸ admitted) readable) named
      · simpa [content, synapse, IsReadable] using
          And.intro (isReadable_plainly admitted readable) named
  | createTemporary name columns =>
      obtain ⟨created, marked⟩ := creationFaults_of_createTemporary sound
      obtain ⟨-, -, admitted, -⟩ := Dialect.creationFaults_eq_nil_iff.mp created
      exact ⟨isReadable_plainly admitted readable, marked⟩
  | drop | truncate | rename => trivial

/-- **No two requests have the same statement.** Two accepted requests whose defaults can be
read back are answered by the same text exactly when they ask the same of the dialect. -/
theorem text_eq_iff {first second : TableRequest} {sql sql' : Sql}
    (compiled : first.compile dialect = .ok sql) (compiled' : second.compile dialect = .ok sql')
    (readable : first.HasReadableDefaults) (readable' : second.HasReadableDefaults) :
    sql.text dialect = sql'.text dialect ↔ first.content dialect = second.content dialect := by
  obtain ⟨sound, rfl⟩ := compile_eq_ok_iff.mp compiled
  obtain ⟨sound', rfl⟩ := compile_eq_ok_iff.mp compiled'
  constructor
  · intro same
    refine eq_of_chars_eq (isReadable_content sound readable) (isReadable_content sound' readable')
      ?_ ?_ ?_
    · rw [name_content]
      exact schema_ne_empty sound
    · rw [name_content]
      exact schema_ne_empty sound'
    · rw [sql_content, sql_content]
      exact congrArg String.toList same
  · intro same
    rw [← sql_content dialect first, same, sql_content]

/-- A column type with a default. -/
def zeroByDefault : Definition where
  dialect := .synapse
  type := "INT"
  length := none
  nullable := false
  default := some "0"
  characterSet := none
  type_mem := by decide
  characterSet_isSome := by decide

/-- A request for a table with one column, declared in the given way. -/
def createCounted (kind : ColumnKind) : TableRequest :=
  create ⟨"dbo", "orders"⟩
    { toList := [⟨kind, .text "count", zeroByDefault, rfl⟩]
      plain := by simp [Value.isStructured]
      nodup := by simp }
    [.text "count"] (some (.hash "count")) (some .heap)

theorem text_eq_iff_createCounted :
    ∃ sql sql', (createCounted .plain).compile .synapse = .ok sql ∧
      (createCounted (.bound .synapse)).compile .synapse = .ok sql' ∧
      (sql.text .synapse = sql'.text .synapse ↔
        (createCounted .plain).content .synapse =
          (createCounted (.bound .synapse)).content .synapse) := by
  have default : zeroByDefault.HasReadableDefault := by decide
  have readable : ∀ kind, (createCounted kind).HasReadableDefaults := by
    intro kind column member
    rw [List.mem_singleton.mp member]
    exact default
  exact ⟨_, _, rfl, rfl, text_eq_iff rfl rfl (readable _) (readable _)⟩

end TableRequest

end Warehouse
