import Warehouse.Proofs.Request.ForeignWords

/-! # The key clause in the text of a statement

The words that open a key clause are foreign to a statement that creates a table, so they stand
in it only where the clause is written: not at all without key columns, and once with them. The
words by which Teradata is told not to distribute rows by a column stand there in just the other
case (`TableRequest.compile_keyClause`). -/

namespace Warehouse

open Text Sql

variable {dialect : Dialect} {word : List Char}

/-- The words that open a key clause. -/
def keyWords : List Char := "PRIMARY KEY".toList

/-- The words that say of a table of Teradata that its rows are not distributed by a column. -/
def noIndexWords : List Char := "NO PRIMARY INDEX".toList

theorem isForeign_keyWords (dialect : Dialect) : IsForeign dialect keyWords where
  spaced := by decide
  marks := by decide +kernel
  letter := ⟨'K', by decide, by decide, by cases dialect <;> decide +kernel⟩
  clauses := by decide +kernel
  default_word := by decide
  solid := by decide
  frame := by cases dialect <;> decide +kernel

theorem isForeign_noIndexWords : IsForeign .teradata noIndexWords where
  spaced := by decide
  marks := by decide +kernel
  letter := ⟨'X', by decide, by decide, by decide +kernel⟩
  clauses := by decide +kernel
  default_word := by decide
  solid := by decide
  frame := by decide +kernel

/-! ## Statements -/

namespace TableRequest

variable {name : TableName} {columns : Columns} {keys : List Value}
  {distribution : Option Distribution} {index : Option Index}

/-- The columns of an accepted request are those of its dialect. -/
theorem dialect_eq_of_creationFaults (none : dialect.creationFaults name columns keys = []) :
    ∀ column ∈ columns.toList, column.dialect = dialect :=
  fun column member => ((Dialect.creationFaults_eq_nil_iff.mp none).2.2.1 column member).2

theorem spaceless_namings {request : TableRequest} (none : request.faults dialect = []) :
    ∀ naming ∈ request.namings dialect, ' ' ∉ naming.2.toList :=
  fun naming member => (admits_of_faults none naming member).space_not_mem

variable (foreign : IsForeign dialect word)

include foreign

/-- The words occur in the statement for a table where its key columns are opened and where
its columns are closed. -/
theorem occurrences_create
    (none : (create name columns keys distribution index).faults dialect = [])
    (free : columns.DefaultsLack word) :
    occurrences word
        (chars dialect ((create name columns keys distribution index).sql dialect)) =
      (if keys = [] then 0 else occurrences word dialect.keyLayout.opening.toList) +
        occurrences word (dialect.tableLayout (keys ≠ [])).closing.toList := by
  obtain ⟨⟨⟨spaceless, named⟩, keyed⟩, stored⟩ :
      (((' ' ∉ name.schema.toList ∧ ' ' ∉ name.table.toList) ∧
        ∀ name ∈ columns.names, ' ' ∉ name.wording.toList) ∧
        ∀ key ∈ keys, ' ' ∉ key.wording.toList) ∧
      (dialect = .synapse → ∀ name ∈ (index.map (·.columns)).getD [] ++
        (distribution.map (·.columns)).getD [], ' ' ∉ name.toList) := by
    have all := spaceless_namings none
    by_cases synapse : dialect = .synapse <;>
      simpa [namings, TableName.namings, columnNamings, synapse, or_imp, forall_and, and_assoc]
        using all
  have own := dialect_eq_of_creationFaults (List.append_eq_nil_iff.mp none).1
  have laid := dialect.hasLayout_tableLayout (keys ≠ [])
  have storage : NoneEnters word (chars dialect
        (if dialect = .synapse then storageClause distribution index else [])) ∧
      occurrences word (chars dialect
        (if dialect = .synapse then storageClause distribution index else [])) = 0 := by
    split
    · rename_i synapse
      exact ⟨foreign.noneEnters_storageClause _ _,
        foreign.occurrences_storageClause synapse (stored synapse)⟩
    · rw [chars_nil]
      exact ⟨noneEnters_nil, foreign.occurrences_fixed (List.nil_subset _)⟩
  have closed : (chars dialect [.plain (dialect.tableLayout (keys ≠ [])).closing]).head? =
      some ')' := by
    simpa using laid.closed
  have ends := foreign.noneEnters_keys keys closed
  rw [← chars_append] at ends
  have clause := foreign.occurrences_keys keyed closed
  rw [← chars_append] at clause
  rw [sql, chars_append, occurrences_append foreign.present (.inr storage.1), storage.2,
    foreign.occurrences_layout laid spaceless own named free ends, clause]
  simp

/-- The words occur in the statement for a table of a session where its columns are closed. -/
theorem occurrences_createTemporary
    (none : (createTemporary name columns).faults dialect = [])
    (free : columns.DefaultsLack word) :
    occurrences word (chars dialect ((createTemporary name columns).sql dialect)) =
      occurrences word dialect.temporaryLayout.closing.toList := by
  obtain ⟨spaceless, named⟩ : (' ' ∉ name.schema.toList ∧ ' ' ∉ name.table.toList) ∧
      ∀ name ∈ columns.names, ' ' ∉ name.wording.toList := by
    simpa [namings, TableName.namings, columnNamings, or_imp, forall_and, and_assoc] using
      spaceless_namings none
  have own := dialect_eq_of_creationFaults (creationFaults_of_createTemporary none).1
  have laid := dialect.hasLayout_temporaryLayout
  have closing : chars dialect ([] ++ [.plain dialect.temporaryLayout.closing]) =
      dialect.temporaryLayout.closing.toList := by
    simp
  have ends := foreign.noneEnters_closed laid.closed
  rw [← closing] at ends
  rw [sql, foreign.occurrences_layout laid spaceless own named free ends, closing]

variable {definition : TableDefinition} {withKeys : Bool} {sql : Sql}

/-- The key columns of the request that creates a defined table. -/
def definedKeys (definition : TableDefinition) (withKeys : Bool) : List Value :=
  if definition.temporary = false ∧ withKeys = true then definition.primaryKeys else []

/-- What closes the columns in the statement that creates a defined table. -/
def definedClosing (dialect : Dialect) (definition : TableDefinition) (withKeys : Bool) : String :=
  if definition.temporary then dialect.temporaryLayout.closing
  else (dialect.tableLayout (definedKeys definition withKeys ≠ [])).closing

omit foreign in
theorem definedKeys_ne_nil_iff : definedKeys definition withKeys ≠ [] ↔
    withKeys = true ∧ definition.temporary = false ∧ definition.primaryKeys ≠ [] := by
  unfold definedKeys
  split <;> tauto

theorem occurrences_ofDefinition
    (compiled : (ofDefinition definition withKeys).compile dialect = .ok sql)
    (free : definition.columns.DefaultsLack word) :
    occurrences word (chars dialect sql) =
      (if definedKeys definition withKeys = [] then 0
        else occurrences word dialect.keyLayout.opening.toList) +
        occurrences word (definedClosing dialect definition withKeys).toList := by
  obtain ⟨none, rfl⟩ := compile_eq_ok_iff.mp compiled
  unfold ofDefinition at none ⊢
  unfold definedClosing definedKeys
  cases temporary : definition.temporary with
  | true =>
      rw [temporary] at none
      simpa using occurrences_createTemporary foreign none free
  | false =>
      rw [temporary] at none
      simpa using occurrences_create foreign none free

omit foreign

/-- The key clause is opened once if there are key columns. -/
theorem occurrences_keyWords
    (compiled : (ofDefinition definition withKeys).compile dialect = .ok sql)
    (free : definition.columns.DefaultsLack keyWords) :
    occurrences keyWords (chars dialect sql) =
      if definedKeys definition withKeys = [] then 0 else 1 := by
  have opening : occurrences keyWords dialect.keyLayout.opening.toList = 1 := by
    cases dialect <;> decide +kernel
  have closing : occurrences keyWords (definedClosing dialect definition withKeys).toList = 0 := by
    unfold definedClosing
    split
    · cases dialect <;> decide +kernel
    · generalize decide (definedKeys definition withKeys ≠ []) = keyed
      cases dialect <;> cases keyed <;> decide +kernel
  rw [occurrences_ofDefinition (isForeign_keyWords dialect) compiled free, opening, closing,
    Nat.add_zero]

/-- In Teradata, a table without key columns is said not to be distributed by a column. -/
theorem occurrences_noIndexWords
    (compiled : (ofDefinition definition withKeys).compile .teradata = .ok sql)
    (free : definition.columns.DefaultsLack noIndexWords) :
    occurrences noIndexWords (chars .teradata sql) =
      if definedKeys definition withKeys = [] then 1 else 0 := by
  have opening : occurrences noIndexWords Dialect.teradata.keyLayout.opening.toList = 0 := by
    decide +kernel
  have closing : ∀ keyed, occurrences noIndexWords
      (Dialect.teradata.tableLayout keyed).closing.toList = if keyed then 0 else 1 := by
    decide +kernel
  have temporary : occurrences noIndexWords Dialect.teradata.temporaryLayout.closing.toList = 1 := by
    decide +kernel
  rw [occurrences_ofDefinition isForeign_noIndexWords compiled free, opening, ite_self,
    Nat.zero_add]
  unfold definedClosing
  split
  · rename_i session
    have unkeyed : definedKeys definition withKeys = [] := by simp [definedKeys, session]
    rw [temporary, if_pos unkeyed]
  · rw [closing]
    by_cases unkeyed : definedKeys definition withKeys = [] <;> simp [unkeyed]

/-- **The key clause in the statement for a defined table.** If no default contains the words
that open the clause, they stand in the statement exactly if keys are asked for, the table is
not one of a session and it has key columns, and then they stand there once. In Teradata, the
statement says that rows are not distributed by a column exactly if those words do not stand in
it, if no default says so either. -/
theorem compile_keyClause
    (compiled : (ofDefinition definition withKeys).compile dialect = .ok sql)
    (free : definition.columns.DefaultsLack keyWords) :
    let text := (sql.text dialect).toList
    (keyWords <:+: text ↔
        withKeys = true ∧ definition.temporary = false ∧ definition.primaryKeys ≠ []) ∧
      (keyWords <:+: text → occurrences keyWords text = 1) ∧
      (dialect = .teradata → definition.columns.DefaultsLack noIndexWords →
        (noIndexWords <:+: text ↔ ¬ keyWords <:+: text)) := by
  intro text
  have counted : occurrences keyWords text =
      if definedKeys definition withKeys = [] then 0 else 1 :=
    occurrences_keyWords compiled free
  have keyed : keyWords <:+: text ↔ definedKeys definition withKeys ≠ [] := by
    rw [← occurrences_pos_iff, counted]
    split <;> simp_all
  refine ⟨keyed.trans definedKeys_ne_nil_iff, fun within => ?_, ?_⟩
  · rw [counted, if_neg (keyed.mp within)]
  · rintro rfl free'
    have counted' : occurrences noIndexWords text =
        if definedKeys definition withKeys = [] then 1 else 0 :=
      occurrences_noIndexWords compiled free'
    rw [keyed, ← occurrences_pos_iff, counted']
    split <;> simp_all

/-- A key column of Teradata that has one of the words for its default. -/
def primaryByDefault : Definition where
  dialect := .teradata
  type := "INTEGER"
  length := none
  nullable := false
  default := some "PRIMARY"
  characterSet := none
  type_mem := by decide
  characterSet_isSome := by decide

/-- A table whose name and column have the words for names. -/
def namedByWords : TableDefinition where
  name := ⟨"PRIMARY", "KEY"⟩
  temporary := false
  columns := {
    toList := [⟨.plain, .text "KEY", primaryByDefault, rfl⟩]
    plain := by simp [Value.isStructured]
    nodup := by simp }
  primaryKeys := [.text "KEY"]
  storage := none
  keys_present := by decide
  storage_present := nofun

theorem compile_keyClause_namedByWords :
    ∃ sql, (ofDefinition namedByWords true).compile .teradata = .ok sql ∧
      occurrences keyWords (sql.text .teradata).toList = 1 ∧
      ¬ noIndexWords <:+: (sql.text .teradata).toList := by
  have lacks : ∀ word ∈ [keyWords, noIndexWords], namedByWords.columns.DefaultsLack word := by
    intro word member column here expression given
    obtain rfl := List.mem_singleton.mp here
    obtain rfl := Option.some.inj given
    rw [← occursIn_iff]
    revert word
    decide +kernel
  obtain ⟨sql, compiled⟩ : ∃ sql, (ofDefinition namedByWords true).compile .teradata = .ok sql :=
    ⟨_, rfl⟩
  obtain ⟨keyed, once, indexed⟩ := compile_keyClause compiled (lacks _ (by simp))
  have within := keyed.mpr ⟨rfl, rfl, List.cons_ne_nil _ _⟩
  exact ⟨sql, compiled, once within, fun unindexed =>
    (indexed rfl (lacks _ (by simp))).mp unindexed within⟩

end TableRequest

end Warehouse
