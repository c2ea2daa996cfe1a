import Warehouse.Access
import Warehouse.Proofs.Datatype.Rendering
import Warehouse.Proofs.Request.Acceptance
import Warehouse.Proofs.Sql.Separation

/-! # The parts of a statement that creates a table

The columns, the key columns and the storage of a table to be created are each told apart
from what stands behind them, in the layouts of all dialects. A column that stands alone is
told apart as well (`Column.canonical_eq_of_written`). -/

namespace Warehouse

open Sql

variable {dialect : Dialect}

/-! ## Layouts -/

namespace Dialect

theorem tableLayout_beforeColumns (dialect : Dialect) (keyed keyed' : Bool) :
    (dialect.tableLayout keyed).beforeColumns = (dialect.tableLayout keyed').beforeColumns := by
  cases dialect <;> rfl

theorem tableLayout_separator (dialect : Dialect) (keyed keyed' : Bool) :
    (dialect.tableLayout keyed).separator = (dialect.tableLayout keyed').separator := by
  cases dialect <;> rfl

theorem comma_tableLayout (dialect : Dialect) (keyed : Bool) :
    (dialect.tableLayout keyed).separator.toList.head? = some ',' := by
  cases dialect <;> simp [tableLayout]

theorem closed_tableLayout (dialect : Dialect) (keyed : Bool) (rest : List Char) :
    ((dialect.tableLayout keyed).closing.toList ++ rest).head? = some ')' := by
  cases dialect <;> cases keyed <;> rfl

end Dialect

/-! ## Columns -/

/-- A column that can be read back from a statement of the dialect. How it was declared is
not written, so it has to be declared plainly. -/
structure Column.IsReadable (dialect : Dialect) (column : Column) : Prop where
  plain : column.kind = .plain
  named : ∃ word, column.name = .text word
  own : column.dialect = dialect
  readable : column.definition.HasReadableDefault

theorem Column.separates_sql (dialect : Dialect) :
    Separates (fun column : Column => chars dialect column.sql) (·.IsReadable dialect)
      Definition.EndsColumn := by
  intro first second admitted admitted' rest behind ends ends' same
  obtain ⟨word, named⟩ := admitted.named
  obtain ⟨word', named'⟩ := admitted'.named
  simp only [Column.sql, chars_name, chars_plain, chars_nil, named, named', String.toList_append,
    List.append_assoc, List.nil_append] at same
  obtain ⟨words, left⟩ := dialect.quoteStyle.separates_quoteName trivial trivial
    (dialect.head?_space_ne _) (dialect.head?_space_ne _) same
  obtain ⟨definitions, left⟩ := Definition.separates_sql dialect ⟨admitted.own, admitted.readable⟩
    ⟨admitted'.own, admitted'.readable⟩ ends ends' (List.cons.inj left).2
  refine ⟨?_, left⟩
  rw [Column.mk.injEq]
  refine ⟨admitted.plain.trans admitted'.plain.symm, ?_, definitions⟩
  rw [named, named']
  exact congrArg Value.text words

theorem Column.head?_sql (column : Column) :
    (chars dialect column.sql).head? = some dialect.quoteStyle.opening := by
  simp [Column.sql, QuoteStyle.toList_quoteName]

theorem Column.written_eq_ok_iff {column : Column} {text : String} :
    column.written = .ok text ↔ (∃ word, column.name = .text word) ∧ column.text = text := by
  unfold Column.written
  cases column.name <;> simp [Value.word?]

/-- Columns of one dialect that are written alike have the same name and type text. -/
theorem Column.canonical_eq_of_written {column other : Column} {text : String}
    (own : column.dialect = other.dialect) (written : column.written = .ok text)
    (writtenToo : other.written = .ok text) : column.canonical = other.canonical := by
  obtain ⟨⟨word, named⟩, first⟩ := written_eq_ok_iff.mp written
  obtain ⟨⟨word', named'⟩, second⟩ := written_eq_ok_iff.mp writtenToo
  have same : chars other.dialect column.sql = chars other.dialect other.sql := by
    have texts := congrArg String.toList (first.trans second.symm)
    rwa [Column.text, Column.text, own] at texts
  simp only [Column.sql, chars_name, chars_plain, chars_nil, named, named', String.toList_append,
    List.append_nil] at same
  obtain ⟨words, left⟩ := other.dialect.quoteStyle.separates_quoteName trivial trivial
    (other.dialect.head?_space_ne _) (other.dialect.head?_space_ne _) same
  have types := String.toList_inj.mp (List.cons.inj left).2
  rw [Column.canonical, Column.canonical, named, named', types, show word = word' from words]

/-- The text behind the columns of a table: it ends the last column, and no column follows. -/
structure EndsColumns (dialect : Dialect) (separator : String) (rest : List Char) : Prop where
  column : Definition.EndsColumn rest
  list : EndsList separator.toList dialect.quoteStyle.opening rest

/-- No column follows behind a closing parenthesis. -/
theorem endsColumns_of_closed {separator : String}
    (comma : separator.toList.head? = some ',') {rest : List Char}
    (closed : rest.head? = some ')') : EndsColumns dialect separator rest :=
  ⟨fun _ here => .inr (Option.some.inj (here.symm.trans closed)), endsList_of_closed comma closed⟩

/-- The columns of a table are told apart, in whatever number. -/
theorem Columns.separates_sql (dialect : Dialect) {separator : String}
    (comma : separator.toList.head? = some ',') :
    Separates (fun columns : Columns => chars dialect (columns.sql separator))
      (fun columns => ∀ column ∈ columns.toList, column.IsReadable dialect)
      (EndsColumns dialect separator) := by
  have between : ∀ text : List Char,
      Definition.EndsColumn (separator.toList ++ dialect.quoteStyle.opening :: text) := by
    obtain ⟨blanks, written⟩ := List.head?_eq_some_iff.mp comma
    intro text c here
    rw [written, List.cons_append, List.head?_cons] at here
    exact .inl (Option.some.inj here).symm
  intro first second admitted admitted' rest behind ends ends' same
  simp only [Columns.sql, chars_intercalate, joined_map] at same
  obtain ⟨lists, left⟩ := (Column.separates_sql dialect).joined (fun column _ => column.head?_sql)
    between admitted admitted' ⟨ends.column, ends.list⟩ ⟨ends'.column, ends'.list⟩ same
  rw [Columns.mk.injEq]
  exact ⟨lists, left⟩

/-! ## Key columns -/

theorem Value.eq_of_map_wording {values values' : List Value}
    (texts : ∀ value ∈ values, ∃ word, value = .text word)
    (texts' : ∀ value ∈ values', ∃ word, value = .text word)
    (same : values.map Value.wording = values'.map Value.wording) : values = values' := by
  have words : ∀ values : List Value, (∀ value ∈ values, ∃ word, value = .text word) →
      (values.map Value.wording).map Value.text = values := by
    intro values texts
    rw [List.map_map]
    refine (List.map_congr_left fun value member => ?_).trans (List.map_id values)
    obtain ⟨word, rfl⟩ := texts value member
    rfl
  rw [← words values texts, ← words values' texts', same]

namespace KeyLayout

theorem head?_closing (dialect : Dialect) : dialect.keyLayout.closing.toList.head? = some ')' := by
  cases dialect <;> rfl

/-- Key columns are told apart, also from the lack of any. -/
theorem separates_sql (dialect : Dialect) :
    Separates (fun keys => chars dialect (dialect.keyLayout.sql keys))
      (∀ key ∈ ·, ∃ word, key = .text word) (·.head? = some ')') := by
  have comma : dialect.keyLayout.separator.toList.head? = some ',' := by cases dialect <;> rfl
  have opened : ∀ text : List Char,
      (dialect.keyLayout.opening.toList ++ text).head? ≠ some ')' := by
    intro text
    cases dialect <;> simp [Dialect.keyLayout]
  intro first second admitted admitted' rest behind ends ends' same
  simp only [KeyLayout.sql] at same
  by_cases none : first = [] <;> by_cases none' : second = [] <;>
    simp only [none, none', ↓reduceIte, chars_nil, List.nil_append, chars_append, chars_plain,
      List.append_nil, List.append_assoc, List.cons_append] at same
  · exact ⟨none.trans none'.symm, same⟩
  · exact absurd (same ▸ ends) (opened _)
  · exact absurd (same ▸ ends') (opened _)
  · have closed : ∀ text : List Char,
        (dialect.keyLayout.closing.toList ++ text).head? = some ')' := by
      obtain ⟨others, written⟩ := List.head?_eq_some_iff.mp (head?_closing dialect)
      intro text
      rw [written, List.cons_append, List.head?_cons]
    obtain ⟨names, left⟩ := separates_names comma trivial trivial (closed _) (closed _)
      (List.append_cancel_left same)
    exact ⟨Value.eq_of_map_wording admitted admitted' names, List.append_cancel_left left⟩

end KeyLayout

/-- No column follows behind key columns, or instead of them. -/
theorem endsColumns_keys {keyed : Bool} (keys : List Value)
    {rest : List Char} (closed : rest.head? = some ')') :
    EndsColumns dialect (dialect.tableLayout keyed).separator
      (chars dialect (dialect.keyLayout.sql keys) ++ rest) := by
  by_cases none : keys = []
  · simp only [KeyLayout.sql, none, ↓reduceIte, chars_nil, List.nil_append]
    exact endsColumns_of_closed (dialect.comma_tableLayout keyed) closed
  · simp only [KeyLayout.sql, none, ↓reduceIte, List.cons_append, chars_plain, List.append_assoc]
    refine ⟨?_, ⟨?_, ?_⟩⟩
    · cases dialect <;> simp [Definition.EndsColumn, Dialect.keyLayout]
    · cases dialect <;> simp [Dialect.keyLayout, Dialect.quoteStyle, QuoteStyle.named, Dialect.name]
    · cases dialect <;> simp [Dialect.keyLayout, Dialect.tableLayout, Dialect.quoteStyle,
        QuoteStyle.named, Dialect.name, List.cons_prefix_cons]

/-! ## Storage -/

theorem separates_parenthesised :
    Separates (fun names => chars dialect (parenthesised names)) (· ≠ []) fun _ => True := by
  have closed : ∀ text : List Char, (")".toList ++ text).head? = some ')' := fun _ => rfl
  intro first second present present' rest behind _ _ same
  simp only [parenthesised, present, present', ↓reduceIte, chars_plain, chars_append,
    List.cons_append, List.append_assoc, chars_nil, List.nil_append] at same
  obtain ⟨names, left⟩ := separates_names rfl trivial trivial (closed _) (closed _)
    (List.append_cancel_left same)
  exact ⟨names, List.append_cancel_left left⟩

theorem Index.separates_option :
    Separates (fun index : Index => chars dialect index.option) (fun _ => True) fun _ => True := by
  intro first second _ _ rest behind _ _ same
  cases first with
  | heap => cases second <;> simp_all [Index.option, Index.type, parenthesised, Index.columns]
  | clusteredColumnstore =>
      cases second <;> simp_all [Index.option, Index.type, parenthesised, Index.columns]
  | clustered columns present =>
      cases second with
      | heap => simp [Index.option, Index.type, parenthesised, Index.columns] at same
      | clusteredColumnstore =>
          simp [Index.option, Index.type, parenthesised, Index.columns] at same
      | clustered columns' present' =>
          simp only [Index.option, Index.type, chars_plain, List.append_assoc] at same
          obtain ⟨names, left⟩ := separates_parenthesised present present' trivial trivial
            (List.append_cancel_left same)
          exact ⟨by rw [Index.clustered.injEq]; exact names, left⟩

theorem Distribution.separates_option :
    Separates (fun distribution : Distribution => chars dialect distribution.option)
      (fun _ => True) fun _ => True := by
  intro first second _ _ rest behind _ _ same
  cases first with
  | roundRobin =>
      cases second <;> simp_all [Distribution.option, Distribution.name, parenthesised,
        Distribution.columns]
  | replicate =>
      cases second <;> simp_all [Distribution.option, Distribution.name, parenthesised,
        Distribution.columns]
  | hash column =>
      cases second with
      | roundRobin => simp [Distribution.option, Distribution.name] at same
      | replicate => simp [Distribution.option, Distribution.name] at same
      | hash column' =>
          simp only [Distribution.option, Distribution.name, chars_plain, List.append_assoc] at same
          obtain ⟨names, left⟩ := separates_parenthesised (List.cons_ne_nil _ _)
            (List.cons_ne_nil _ _) trivial trivial (List.append_cancel_left same)
          exact ⟨congrArg Distribution.hash (List.cons.inj names).1, left⟩

/-- An index is not written like a distribution. -/
theorem Index.option_append_ne (index : Index) (distribution : Distribution)
    (rest behind : List Char) :
    chars dialect index.option ++ rest ≠ chars dialect distribution.option ++ behind := by
  cases index <;> simp [Index.option, Index.type, Distribution.option]

/-- The storage options of a table are told apart, also from the lack of any. -/
theorem storageClause_inj {distribution distribution' : Option Distribution}
    {index index' : Option Index}
    (same : chars dialect (storageClause distribution index) =
      chars dialect (storageClause distribution' index')) :
    distribution = distribution' ∧ index = index' := by
  rcases index with _ | index <;> rcases index' with _ | index' <;>
    rcases distribution with _ | distribution <;> rcases distribution' with _ | distribution' <;>
      simp only [storageClause, chars_nil, chars_plain, chars_append, List.cons_append,
        List.append_assoc, List.append_cancel_left_eq] at same
  -- Neither has an index.
  · exact ⟨rfl, rfl⟩
  · cases same
  · cases same
  · have distributions := (Distribution.separates_option trivial trivial trivial trivial same).1
    exact ⟨congrArg some distributions, rfl⟩
  -- Only the second has an index.
  · cases same
  · cases same
  · exact absurd same.symm (index'.option_append_ne distribution _ _)
  · exact absurd same.symm (index'.option_append_ne distribution _ _)
  -- Only the first has an index.
  · cases same
  · exact absurd same (index.option_append_ne distribution' _ _)
  · cases same
  · exact absurd same (index.option_append_ne distribution' _ _)
  -- Both have an index.
  · have indexes := (Index.separates_option trivial trivial trivial trivial same).1
    exact ⟨rfl, congrArg some indexes⟩
  · have left := (Index.separates_option trivial trivial trivial trivial same).2
    cases left
  · have left := (Index.separates_option trivial trivial trivial trivial same).2
    cases left
  · obtain ⟨indexes, left⟩ := Index.separates_option trivial trivial trivial trivial same
    have distributions := (Distribution.separates_option trivial trivial trivial trivial
      (List.append_cancel_left left)).1
    exact ⟨congrArg some distributions, congrArg some indexes⟩

end Warehouse
