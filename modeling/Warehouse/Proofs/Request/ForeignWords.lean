import Warehouse.Proofs.Request.Naming
import Warehouse.Proofs.Text.Occurrence

/-! # Words that do not come up by themselves

A statement that creates a table is put together from fixed text, names, lengths, types and
defaults. Words with a space in them do not occur in a name, which holds none, and words with a
letter that types and clauses do not have do not occur in those. Words that do not pass from one
part into the next either are foreign to the statement (`IsForeign`): apart from the free text of
defaults, they occur only where key columns are opened and where the columns of the table are
closed (`IsForeign.occurrences_layout`, `IsForeign.occurrences_keys`). -/

namespace Warehouse

open Text Sql

/-! ## Names without spaces -/

theorem IsNameLetter.ne_space {c : Char} (letter : IsNameLetter c) : c ≠ ' ' :=
  letter.ne (by decide)

theorem NameForm.space_not_mem {dialect : Dialect} {kind : ObjectKind} {chars : List Char}
    (form : NameForm dialect kind chars) : ' ' ∉ chars := by
  intro space
  cases form with
  | plain _ allowed => exact (allowed _ space).ne_space rfl
  | marked _ _ allowed =>
      rcases List.mem_cons.mp space with mark | letter
      · cases mark
      · exact (allowed _ letter).ne_space rfl

namespace Dialect

theorem Admits.space_not_mem {dialect : Dialect} {kind : ObjectKind} {name : String}
    (admitted : dialect.Admits kind name) : ' ' ∉ name.toList := by
  rcases admitted with form | ⟨front, broken, form⟩
  · exact form.space_not_mem
  · simpa [broken] using form.space_not_mem

theorem space_not_mem_quoteName (dialect : Dialect) {name : String}
    (spaceless : ' ' ∉ name.toList) : ' ' ∉ (dialect.quoteStyle.quoteName name).toList := by
  have opening : ' ' ≠ dialect.quoteStyle.opening :=
    (dialect.opening_ne (by decide) (by decide)).symm
  have closing : ' ' ≠ dialect.quoteStyle.closing :=
    (dialect.closing_ne (by decide) (by decide)).symm
  have inside : ' ' ∉ escaped dialect.quoteStyle.closing none name.toList := by
    rw [← doubleMark_eq_escaped, doubleMark, List.mem_flatMap]
    rintro ⟨c, member, here⟩
    have same : ' ' = c := by
      by_cases mark : c = dialect.quoteStyle.closing
      · simpa [mark] using here
      · simpa [mark] using here
    exact spaceless (same ▸ member)
  simp [QuoteStyle.toList_quoteName, opening, closing, inside]

end Dialect

/-! ## Foreign words -/

/-- The fixed text around the columns and the key columns of a table to be created, apart from
the words that open the key clause and those that close the columns. -/
def Dialect.frameTexts (dialect : Dialect) : List String :=
  let layouts := [dialect.tableLayout true, dialect.temporaryLayout]
  layouts.flatMap (fun layout => [layout.opening, layout.beforeColumns, layout.separator]) ++
    [dialect.keyLayout.separator, dialect.keyLayout.closing] ++
    if dialect = .synapse then
      [" WITH (", ", ", "HEAP", "CLUSTERED COLUMNSTORE INDEX", "CLUSTERED INDEX",
        "DISTRIBUTION = HASH", "DISTRIBUTION = ROUND_ROBIN", "DISTRIBUTION = REPLICATE"]
    else []

/-- The layout is that of tables of the dialect, apart from the words that close the columns. -/
structure Dialect.HasLayout (dialect : Dialect) (layout : TableLayout) : Prop where
  opening : layout.opening ∈ dialect.frameTexts
  beforeColumns : layout.beforeColumns ∈ dialect.frameTexts
  separator : layout.separator ∈ dialect.frameTexts
  opened : layout.beforeColumns.toList.getLast? = some '('
  comma : layout.separator.toList.head? = some ','
  closed : layout.closing.toList.head? = some ')'

theorem Dialect.hasLayout_tableLayout (dialect : Dialect) (keyed : Bool) :
    dialect.HasLayout (dialect.tableLayout keyed) where
  opening := by cases dialect <;> cases keyed <;> decide
  beforeColumns := by simp [dialect.tableLayout_beforeColumns keyed true, frameTexts]
  separator := by simp [dialect.tableLayout_separator keyed true, frameTexts]
  opened := by
    rw [dialect.tableLayout_beforeColumns keyed true]
    cases dialect <;> decide
  comma := dialect.comma_tableLayout keyed
  closed := by simpa using dialect.closed_tableLayout keyed []

theorem Dialect.hasLayout_temporaryLayout (dialect : Dialect) :
    dialect.HasLayout dialect.temporaryLayout where
  opening := by simp [frameTexts]
  beforeColumns := by simp [frameTexts]
  separator := by simp [frameTexts]
  opened := by cases dialect <;> decide
  comma := by cases dialect <;> rfl
  closed := by cases dialect <;> rfl

/-- No default of a column contains the words. -/
def Columns.DefaultsLack (word : List Char) (columns : Columns) : Prop :=
  ∀ column ∈ columns.toList, ∀ expression ∈ column.definition.default,
    ¬ word <:+: expression.toList

/-- The words do not come up by themselves in a statement of the dialect that creates a table.
They hold a space, none of the marks around names, lengths and items, and a letter that types and
clauses do not have. No clause begins inside of them, and they do not begin where a default clause
stops being fixed text. The fixed text around the columns does not contain them. -/
structure IsForeign (dialect : Dialect) (word : List Char) : Prop where
  spaced : ' ' ∈ word
  marks : ['"', '[', ']', '(', ')', ',', '.'].all (· ∉ word) = true
  letter : ∃ c ∈ word, c ∉ " (NOT NULL DEFAULT CHARACTER SET LATIN UNICODE)".toList ∧
    ∀ type ∈ dialect.typeNames, c ∉ type.toList
  clauses : ['N', 'D', 'C', '(', 'W'].all (fun c => ! occursIn [' ', c] word) = true
  default_word : occursIn ['T', ' '] word = false
  solid : word.head? ≠ some ' ' ∧ word.getLast? ≠ some ' '
  frame : dialect.frameTexts.all (fun text => ! occursIn word text.toList) = true

variable {dialect : Dialect} {word : List Char}

namespace IsForeign

variable (foreign : IsForeign dialect word)

include foreign

theorem present : word ≠ [] := List.ne_nil_of_mem foreign.spaced

theorem mark_not_mem {c : Char} (mark : c ∈ ['"', '[', ']', '(', ')', ',', '.']) : c ∉ word := by
  simpa using List.all_eq_true.mp foreign.marks c mark

/-! ## Column types -/

/-- No occurrence reaches into a clause. -/
theorem noneEnters_clause {c : Char} (clause : c ∈ ['N', 'D', 'C', '(', 'W']) (rest : List Char) :
    NoneEnters word (' ' :: c :: rest) := by
  refine noneEnters_pair (fun within => ?_) foreign.solid.2 rest
  have apart := List.all_eq_true.mp foreign.clauses c clause
  rw [occursIn_iff.mpr within] at apart
  cases apart

theorem noneEnters_lengthSql (definition : Definition) :
    NoneEnters word definition.lengthSql.toList := by
  rw [Definition.toList_lengthSql]
  cases definition.length with
  | none => exact noneEnters_nil
  | some length =>
      cases definition.dialect with
      | synapse | snowflake =>
          apply noneEnters_of_head?
          rintro _ ⟨⟩
          exact foreign.mark_not_mem (by decide)
      | teradata | exasol => exact foreign.noneEnters_clause (by decide) _

theorem noneEnters_nullSql (definition : Definition) :
    NoneEnters word definition.nullSql.toList := by
  rw [Definition.toList_nullSql]
  split
  · exact noneEnters_nil
  · exact foreign.noneEnters_clause (by decide) _

theorem noneEnters_defaultSql (definition : Definition) :
    NoneEnters word definition.defaultSql.toList := by
  rw [Definition.toList_defaultSql]
  cases definition.default with
  | none => exact noneEnters_nil
  | some expression => exact foreign.noneEnters_clause (by decide) _

theorem noneEnters_characterSetSql (definition : Definition) :
    NoneEnters word definition.characterSetSql.toList := by
  rw [Definition.toList_characterSetSql]
  cases definition.characterSet with
  | none => exact noneEnters_nil
  | some set => exact foreign.noneEnters_clause (by decide) _

/-- The words do not occur in fixed text. -/
theorem occurrences_fixed {text : List Char}
    (fixed : text ⊆ " (NOT NULL DEFAULT CHARACTER SET LATIN UNICODE)".toList) :
    occurrences word text = 0 := by
  obtain ⟨c, member, other, -⟩ := foreign.letter
  exact occurrences_eq_zero_of_not_mem member fun within => other (fixed within)

theorem occurrences_lengthSql (definition : Definition) :
    occurrences word definition.lengthSql.toList = 0 := by
  rw [Definition.toList_lengthSql]
  cases definition.length with
  | none => exact foreign.occurrences_fixed (List.nil_subset _)
  | some length =>
      have opened : NoneLeaves word (Definition.lengthOpening definition.dialect) := by
        apply noneLeaves_of_getLast?
        have parenthesis : '(' ∉ word := foreign.mark_not_mem (by decide)
        cases definition.dialect <;> rintro _ ⟨⟩ <;> exact parenthesis
      have opening : occurrences word (Definition.lengthOpening definition.dialect) = 0 :=
        foreign.occurrences_fixed (by cases definition.dialect <;> decide)
      have spaceless : ' ' ∉ length.text.toList ++ [')'] := by
        simp [length.space_not_mem_text]
      rw [occurrences_append foreign.present (.inl opened), opening,
        occurrences_eq_zero_of_not_mem foreign.spaced spaceless]

theorem occurrences_nullSql (definition : Definition) :
    occurrences word definition.nullSql.toList = 0 := by
  apply foreign.occurrences_fixed
  rw [Definition.toList_nullSql]
  split <;> decide

theorem occurrences_characterSetSql (definition : Definition) :
    occurrences word definition.characterSetSql.toList = 0 := by
  apply foreign.occurrences_fixed
  rw [Definition.toList_characterSetSql]
  cases definition.characterSet with
  | none => exact List.nil_subset _
  | some set => cases set <;> decide

/-- The words occur in a default clause only if they do in the default. -/
theorem occurrences_defaultSql {definition : Definition}
    (free : ∀ expression ∈ definition.default, ¬ word <:+: expression.toList) :
    occurrences word definition.defaultSql.toList = 0 := by
  rw [Definition.toList_defaultSql]
  cases given : definition.default with
  | none => exact foreign.occurrences_fixed (List.nil_subset _)
  | some expression =>
      -- An occurrence neither begins with the last space in front of a default nor passes it.
      have leaves : NoneLeaves word (" DEFAUL".toList ++ ['T', ' ']) := by
        refine noneLeaves_pair (fun within => ?_) foreign.solid.1 _
        have apart := foreign.default_word
        rw [occursIn_iff.mpr within] at apart
        cases apart
      have opening : occurrences word (" DEFAUL".toList ++ ['T', ' ']) = 0 :=
        foreign.occurrences_fixed (by decide)
      have split : ' ' :: 'D' :: ("EFAULT ".toList ++ expression.toList) =
          (" DEFAUL".toList ++ ['T', ' ']) ++ expression.toList := by simp
      simp only [split]
      exact occurrences_append_eq_zero foreign.present (.inl leaves) opening
        (occurrences_eq_zero_iff.mpr (free expression given))

/-- The words occur in a column type only if they do in its default. -/
theorem occurrences_sql {definition : Definition} (own : definition.dialect = dialect)
    (free : ∀ expression ∈ definition.default, ¬ word <:+: expression.toList) :
    occurrences word (' ' :: definition.sql.toList) = 0 := by
  have type : occurrences word (' ' :: definition.type.toList) = 0 := by
    obtain ⟨c, member, other, types⟩ := foreign.letter
    refine occurrences_eq_zero_of_not_mem member ?_
    rw [List.mem_cons, not_or]
    refine ⟨?_, types definition.type (own ▸ definition.type_mem)⟩
    rintro rfl
    exact other (by decide)
  have length := occurrences_append_eq_zero foreign.present
    (.inr (foreign.noneEnters_lengthSql definition)) type (foreign.occurrences_lengthSql definition)
  -- A clause is put behind any text in which the words do not occur.
  have null {text : List Char} (before : occurrences word text = 0) :=
    occurrences_append_eq_zero foreign.present (.inr (foreign.noneEnters_nullSql definition))
      before (foreign.occurrences_nullSql definition)
  have default {text : List Char} (before : occurrences word text = 0) :=
    occurrences_append_eq_zero foreign.present (.inr (foreign.noneEnters_defaultSql definition))
      before (foreign.occurrences_defaultSql free)
  have characterSet {text : List Char} (before : occurrences word text = 0) :=
    occurrences_append_eq_zero foreign.present
      (.inr (foreign.noneEnters_characterSetSql definition)) before
      (foreign.occurrences_characterSetSql definition)
  by_cases exasol : definition.dialect = .exasol
  · have whole := characterSet (null (default length))
    rw [Definition.toList_sql, Definition.toList_clauseSql_of_exasol exasol]
    simpa only [List.cons_append, List.append_assoc] using whole
  · have whole := characterSet (default (null length))
    rw [Definition.toList_sql, Definition.toList_clauseSql_of_ne exasol]
    simpa only [List.cons_append, List.append_assoc] using whole

theorem occurrences_frame {text : String} (fixed : text ∈ dialect.frameTexts) :
    occurrences word text.toList = 0 := by
  have absent := List.all_eq_true.mp foreign.frame text fixed
  rw [occurrences_eq_zero_iff, ← occursIn_iff]
  simpa using absent

/-! ## Names -/

theorem opening_not_mem : dialect.quoteStyle.opening ∉ word := by
  apply foreign.mark_not_mem
  cases dialect <;> decide

theorem closing_not_mem : dialect.quoteStyle.closing ∉ word := by
  apply foreign.mark_not_mem
  cases dialect <;> decide

theorem noneEnters_name (name : String) (rest : Sql) :
    NoneEnters word (chars dialect (.name name :: rest)) := by
  apply noneEnters_of_head?
  rw [chars_name, QuoteStyle.toList_quoteName]
  rintro _ ⟨⟩
  exact foreign.opening_not_mem

/-- The words neither occur in a name nor reach out of it. -/
theorem occurrences_name {name : String} (spaceless : ' ' ∉ name.toList) (rest : Sql) :
    occurrences word (chars dialect (.name name :: rest)) =
      occurrences word (chars dialect rest) := by
  have leaves : NoneLeaves word (dialect.quoteStyle.quoteName name).toList := by
    apply noneLeaves_of_getLast?
    rw [QuoteStyle.toList_quoteName, ← List.cons_append, List.getLast?_concat]
    rintro _ ⟨⟩
    exact foreign.closing_not_mem
  have quoted : occurrences word (dialect.quoteStyle.quoteName name).toList = 0 :=
    occurrences_eq_zero_of_not_mem foreign.spaced (dialect.space_not_mem_quoteName spaceless)
  rw [chars_name, occurrences_append foreign.present (.inl leaves), quoted, Nat.zero_add]

/-- Fixed text in front of a name. -/
theorem occurrences_plain_name (fixed name : String) (rest : Sql) :
    occurrences word (chars dialect (.plain fixed :: .name name :: rest)) =
      occurrences word fixed.toList + occurrences word (chars dialect (.name name :: rest)) := by
  rw [chars_plain, occurrences_append foreign.present (.inr (foreign.noneEnters_name name rest))]

theorem isSeparator {separator : String} (fixed : separator ∈ dialect.frameTexts)
    (comma : separator.toList.head? = some ',') : IsSeparator word separator.toList where
  free := foreign.occurrences_frame fixed
  foreign := by
    obtain ⟨rest, split⟩ := List.head?_eq_some_iff.mp comma
    exact ⟨',', rest, split, foreign.mark_not_mem (by decide)⟩

theorem occurrences_names {separator : String} {names : List String}
    (separates : IsSeparator word separator.toList)
    (spaceless : ∀ name ∈ names, ' ' ∉ name.toList) :
    occurrences word (chars dialect (Sql.names separator names)) = 0 := by
  have single : ∀ name : String, (dialect.quoteStyle.quoteName name).toList =
      chars dialect [.name name] := fun name => by simp
  rw [chars_names]
  apply occurrences_joined_eq_zero foreign.present separates
  · intro name _
    rw [single]
    exact foreign.noneEnters_name name []
  · intro name member
    rw [single, foreign.occurrences_name (spaceless name member), chars_nil]
    exact foreign.occurrences_fixed (List.nil_subset _)

/-- The name of a table is quoted, with its schema or without. -/
theorem occurrences_qualified {name : TableName} (fixed : String)
    (spaceless : ' ' ∉ name.schema.toList) (spaceless' : ' ' ∉ name.table.toList) (rest : Sql) :
    occurrences word (chars dialect (.plain fixed :: (qualified name.schema name.table ++ rest))) =
      occurrences word fixed.toList + occurrences word (chars dialect rest) := by
  have point : occurrences word ".".toList = 0 :=
    occurrences_eq_zero_of_not_mem foreign.spaced (by decide)
  unfold qualified
  split
  · rw [List.cons_append, foreign.occurrences_plain_name, foreign.occurrences_name spaceless',
      List.nil_append]
  · rw [List.cons_append, foreign.occurrences_plain_name, foreign.occurrences_name spaceless,
      List.cons_append, List.cons_append, foreign.occurrences_plain_name,
      foreign.occurrences_name spaceless', point, Nat.zero_add, List.nil_append]

/-! ## The parts of a statement -/

theorem occurrences_column {column : Column} (own : column.dialect = dialect)
    (spaceless : ' ' ∉ column.name.wording.toList)
    (free : ∀ expression ∈ column.definition.default, ¬ word <:+: expression.toList) :
    occurrences word (chars dialect column.sql) = 0 := by
  have text : chars dialect [.plain (" " ++ column.definition.sql)] =
      ' ' :: column.definition.sql.toList := by simp
  rw [Column.sql, foreign.occurrences_name spaceless, text, foreign.occurrences_sql own free]

/-- The words occur in the columns of a table only if they do in a default. -/
theorem occurrences_columns {columns : Columns} {separator : String}
    (separates : IsSeparator word separator.toList)
    (own : ∀ column ∈ columns.toList, column.dialect = dialect)
    (spaceless : ∀ name ∈ columns.names, ' ' ∉ name.wording.toList)
    (free : columns.DefaultsLack word) :
    occurrences word (chars dialect (columns.sql separator)) = 0 := by
  rw [Columns.sql, chars_intercalate, joined_map]
  apply occurrences_joined_eq_zero foreign.present separates
  · exact fun column _ => foreign.noneEnters_name _ _
  · intro column member
    exact foreign.occurrences_column (own column member)
      (spaceless _ (List.mem_map_of_mem member)) (free column member)

theorem noneEnters_closed {text : List Char} (closed : text.head? = some ')') :
    NoneEnters word text := by
  apply noneEnters_of_head?
  rintro _ here
  obtain rfl := Option.some.inj (closed.symm.trans here)
  exact foreign.mark_not_mem (by decide)

theorem noneLeaves_opened {text : List Char} (opened : text.getLast? = some '(') :
    NoneLeaves word text := by
  apply noneLeaves_of_getLast?
  rintro _ here
  obtain rfl := Option.some.inj (opened.symm.trans here)
  exact foreign.mark_not_mem (by decide)

theorem noneEnters_keys (keys : List Value) {rest : List Char} (closed : rest.head? = some ')') :
    NoneEnters word (chars dialect (dialect.keyLayout.sql keys) ++ rest) := by
  unfold KeyLayout.sql
  split
  · simpa using foreign.noneEnters_closed closed
  · have comma : dialect.keyLayout.opening.toList.head? = some ',' := by cases dialect <;> rfl
    apply noneEnters_of_head?
    rintro _ here
    simp only [List.cons_append, chars_plain, List.append_assoc, List.head?_append, comma,
      Option.some_or, Option.mem_some_iff] at here
    exact here ▸ foreign.mark_not_mem (by decide)

/-- In the clause of key columns, the words occur where it is opened. -/
theorem occurrences_keys {keys : List Value}
    (spaceless : ∀ key ∈ keys, ' ' ∉ key.wording.toList) {rest : List Char}
    (closed : rest.head? = some ')') :
    occurrences word (chars dialect (dialect.keyLayout.sql keys) ++ rest) =
      (if keys = [] then 0 else occurrences word dialect.keyLayout.opening.toList) +
        occurrences word rest := by
  have fixed : dialect.keyLayout.separator ∈ dialect.frameTexts ∧
      dialect.keyLayout.closing ∈ dialect.frameTexts := by simp [Dialect.frameTexts]
  have separates := foreign.isSeparator fixed.1 (by cases dialect <;> rfl)
  have opened : dialect.keyLayout.opening.toList.getLast? = some '(' := by
    cases dialect <;> decide
  have names : occurrences word (chars dialect
      (Sql.names dialect.keyLayout.separator (keys.map Value.wording))) = 0 :=
    foreign.occurrences_names separates (by simpa using spaceless)
  unfold KeyLayout.sql
  split
  · rw [chars_nil, List.nil_append, Nat.zero_add]
  · have behind : (dialect.keyLayout.closing.toList ++ rest).head? = some ')' := by
      rw [List.head?_append, KeyLayout.head?_closing, Option.some_or]
    simp only [List.cons_append, chars_plain, chars_append, chars_nil, List.append_nil,
      List.append_assoc]
    rw [occurrences_append foreign.present (.inl (foreign.noneLeaves_opened opened)),
      occurrences_append foreign.present (.inr (foreign.noneEnters_closed behind)), names,
      occurrences_append foreign.present (.inr (foreign.noneEnters_closed closed)),
      foreign.occurrences_frame fixed.2, Nat.zero_add, Nat.zero_add]

theorem occurrences_layout {layout : TableLayout} (laid : dialect.HasLayout layout)
    {name : TableName} (spaceless : ' ' ∉ name.schema.toList ∧ ' ' ∉ name.table.toList)
    {columns : Columns} (own : ∀ column ∈ columns.toList, column.dialect = dialect)
    (spaceless' : ∀ name ∈ columns.names, ' ' ∉ name.wording.toList)
    (free : columns.DefaultsLack word) {clause : Sql}
    (ends : NoneEnters word (chars dialect (clause ++ [.plain layout.closing]))) :
    occurrences word (chars dialect (layout.sql name columns clause)) =
      occurrences word (chars dialect (clause ++ [.plain layout.closing])) := by
  have separates := foreign.isSeparator laid.separator laid.comma
  have opened := foreign.noneLeaves_opened laid.opened
  have split : layout.sql name columns clause = .plain layout.opening ::
      (qualified name.schema name.table ++ (.plain layout.beforeColumns ::
        (columns.sql layout.separator ++ (clause ++ [.plain layout.closing])))) := by
    simp [TableLayout.sql]
  -- Each part is closed off by a mark, its own last one or the first one of what follows.
  rw [split, foreign.occurrences_qualified _ spaceless.1 spaceless.2,
    foreign.occurrences_frame laid.opening, chars_plain,
    occurrences_append foreign.present (.inl opened), foreign.occurrences_frame laid.beforeColumns,
    chars_append, occurrences_append foreign.present (.inr ends),
    foreign.occurrences_columns separates own spaceless' free, Nat.zero_add, Nat.zero_add,
    Nat.zero_add]

/-! ## Storage -/

theorem occurrences_parenthesised (synapse : dialect = .synapse) {names : List String}
    (spaceless : ∀ name ∈ names, ' ' ∉ name.toList) :
    occurrences word (chars dialect (parenthesised names)) = 0 := by
  have separates : IsSeparator word ",".toList :=
    foreign.isSeparator (by subst synapse; decide) rfl
  unfold parenthesised
  split
  · exact foreign.occurrences_fixed (by simp)
  · simp only [List.cons_append, chars_plain, chars_append, chars_nil, List.append_nil]
    refine occurrences_append_eq_zero foreign.present (.inl (foreign.noneLeaves_opened rfl))
      (foreign.occurrences_fixed (by decide)) ?_
    exact occurrences_append_eq_zero foreign.present (.inr (foreign.noneEnters_closed rfl))
      (foreign.occurrences_names separates spaceless) (foreign.occurrences_fixed (by decide))

theorem occurrences_option (synapse : dialect = .synapse) {fixed : String}
    (framed : fixed ∈ dialect.frameTexts) {names : List String}
    (spaceless : ∀ name ∈ names, ' ' ∉ name.toList) :
    occurrences word (chars dialect (.plain fixed :: parenthesised names)) = 0 := by
  have enters : NoneEnters word (chars dialect (parenthesised names)) := by
    apply noneEnters_of_head?
    unfold parenthesised
    split
    · simp
    · simpa using foreign.mark_not_mem (by decide)
  rw [chars_plain]
  exact occurrences_append_eq_zero foreign.present (.inr enters) (foreign.occurrences_frame framed)
    (foreign.occurrences_parenthesised synapse spaceless)

theorem occurrences_index (synapse : dialect = .synapse) {index : Index}
    (spaceless : ∀ name ∈ index.columns, ' ' ∉ name.toList) :
    occurrences word (chars dialect index.option) = 0 := by
  refine foreign.occurrences_option synapse ?_ spaceless
  cases index <;> simp [Dialect.frameTexts, synapse, Index.type]

theorem occurrences_distribution (synapse : dialect = .synapse) {distribution : Distribution}
    (spaceless : ∀ name ∈ distribution.columns, ' ' ∉ name.toList) :
    occurrences word (chars dialect distribution.option) = 0 := by
  refine foreign.occurrences_option synapse ?_ spaceless
  cases distribution <;> simp [Dialect.frameTexts, synapse, Distribution.name]

theorem noneEnters_storageClause (distribution : Option Distribution) (index : Option Index) :
    NoneEnters word (chars dialect (storageClause distribution index)) := by
  have clause (rest : List Char) : NoneEnters word (" WITH (".toList ++ rest) :=
    foreign.noneEnters_clause (c := 'W') (by decide) _
  cases distribution <;> cases index <;> simp only [storageClause, chars_plain, List.cons_append]
  · simpa using noneEnters_nil
  · exact clause _
  · exact clause _
  · exact clause _

theorem occurrences_storageClause (synapse : dialect = .synapse)
    {distribution : Option Distribution} {index : Option Index}
    (spaceless : ∀ name ∈ (index.map (·.columns)).getD [] ++
      (distribution.map (·.columns)).getD [], ' ' ∉ name.toList) :
    occurrences word (chars dialect (storageClause distribution index)) = 0 := by
  obtain ⟨indexed, distributed⟩ := List.forall_mem_append.mp spaceless
  have opening : occurrences word " WITH (".toList = 0 :=
    foreign.occurrences_frame (by subst synapse; decide)
  have closing : occurrences word ")".toList = 0 := foreign.occurrences_fixed (by decide)
  have comma : occurrences word ", ".toList = 0 :=
    foreign.occurrences_frame (by subst synapse; decide)
  -- Options stand in parentheses, one alone or two with a comma between them.
  have enclosed {options : List Char} (none : occurrences word options = 0) :
      occurrences word (" WITH (".toList ++ (options ++ ")".toList)) = 0 := by
    refine occurrences_append_eq_zero foreign.present (.inl (foreign.noneLeaves_opened rfl))
      opening ?_
    exact occurrences_append_eq_zero foreign.present (.inr (foreign.noneEnters_closed rfl))
      none closing
  cases index with
  | none =>
      cases distribution with
      | none => exact foreign.occurrences_fixed (by simp [storageClause])
      | some distribution =>
          have option := foreign.occurrences_distribution synapse distributed
          simpa only [storageClause, List.cons_append, chars_plain, chars_append, chars_nil,
            List.append_nil] using enclosed option
  | some index =>
      have option := foreign.occurrences_index synapse indexed
      cases distribution with
      | none =>
          simpa only [storageClause, List.cons_append, chars_plain, chars_append, chars_nil,
            List.append_nil] using enclosed option
      | some distribution =>
          have apart : NoneEnters word (", ".toList ++ chars dialect distribution.option) := by
            apply noneEnters_of_head?
            rintro _ ⟨⟩
            exact foreign.mark_not_mem (by decide)
          have leaves : NoneLeaves word ", ".toList :=
            noneLeaves_pair (fun within => foreign.mark_not_mem (c := ',') (by decide)
              (within.subset List.mem_cons_self)) foreign.solid.1 []
          have behind := occurrences_append_eq_zero foreign.present (.inl leaves) comma
            (foreign.occurrences_distribution synapse distributed)
          have both := occurrences_append_eq_zero foreign.present (.inr apart) option behind
          simpa only [storageClause, List.cons_append, chars_plain, chars_append, chars_nil,
            List.append_nil, List.append_assoc] using enclosed both

end IsForeign

end Warehouse
