import Warehouse.Datatype.Definition
import Warehouse.Proofs.Datatype.Length
import Warehouse.Proofs.Datatype.Making
import Warehouse.Proofs.Text.Separation

/-! # Column types in the text of a statement

A column type is written as its name, its length and its clauses. Names of types begin
like others and may hold several words, but what goes on behind one name never begins
like what stands behind a type. The clauses are read from both ends: the default between
them is free text. So the text of a column type tells all its parts, also in front of what
ends a column (`Definition.sql_eq_iff`, `Definition.separates_sql`), with one exception in
Exasol, where a default can bring the constraint against null with it. -/

namespace Warehouse

/-! ## Names of types -/

/-- The text may stand behind the name of a type: it is at its end, or goes on with a length,
with a clause or with what ends a column. -/
def followsType : List Char → Bool
  | [] => true
  | [c] => c ∈ [' ', '(', ',', ')']
  | c :: next :: _ => if c = ' ' then next ∈ ['(', 'N', 'D', 'C'] else c ∈ ['(', ',', ')']

theorem followsType_append {more : List Char} (other : followsType more = false)
    (rest : List Char) : followsType (more ++ rest) = false := by
  match more, rest with
  | [], _ => cases other
  | [c], [] => exact other
  | [c], next :: rest =>
      by_cases blank : c = ' '
      · simp [followsType, blank] at other
      · simp_all [followsType]
  | c :: next :: more, rest => simpa [followsType] using other

namespace Dialect

/-- No name of a type goes on behind another one like the text behind a type. -/
theorem overhang_typeNames (dialect : Dialect) :
    ∀ first ∈ dialect.typeNames, ∀ second ∈ dialect.typeNames,
      first.toList.isPrefixOf second.toList = true → first = second ∨
        followsType (second.toList.drop first.toList.length) = false := by
  cases dialect <;> decide +kernel

/-- Names of types are told apart, although some begin like others. -/
theorem separates_typeNames (dialect : Dialect) :
    Separates String.toList (· ∈ dialect.typeNames) (followsType · = true) := by
  refine Separates.of_overhang fun first second known known' more longer => ?_
  have begins : first.toList.isPrefixOf second.toList = true := by
    rw [List.isPrefixOf_iff_prefix]
    exact ⟨more, longer.symm⟩
  rcases dialect.overhang_typeNames first known second known' begins with same | other
  · subst same
    exact .inl ⟨List.append_right_eq_self.mp longer.symm, rfl⟩
  · rw [longer, List.drop_left] at other
    refine .inr fun rest follows => ?_
    rw [followsType_append other rest] at follows
    cases follows

end Dialect

namespace Definition

variable {dialect : Dialect}

/-- Everything in a column type behind its name and its length. -/
def clauseSql (definition : Definition) : String :=
  (match definition.dialect with
    | .exasol => definition.defaultSql ++ definition.nullSql
    | _ => definition.nullSql ++ definition.defaultSql) ++ definition.characterSetSql

theorem toList_sql (definition : Definition) :
    definition.sql.toList =
      definition.type.toList ++ (definition.lengthSql.toList ++ definition.clauseSql.toList) := by
  cases tag : definition.dialect <;> simp [sql, clauseSql, tag, String.append_assoc]

theorem toList_clauseSql_of_exasol {definition : Definition}
    (exasol : definition.dialect = .exasol) :
    definition.clauseSql.toList = definition.defaultSql.toList ++ definition.nullSql.toList ++
      definition.characterSetSql.toList := by
  simp [clauseSql, exasol]

theorem toList_clauseSql_of_ne {definition : Definition} (other : definition.dialect ≠ .exasol) :
    definition.clauseSql.toList = definition.nullSql.toList ++
      (definition.defaultSql.toList ++ definition.characterSetSql.toList) := by
  unfold clauseSql
  cases tag : definition.dialect with
  | exasol => exact absurd tag other
  | synapse | teradata | snowflake => simp [String.append_assoc]

/-! ## The parts of a column type -/

/-- The text in front of a length. -/
def lengthOpening : Dialect → List Char
  | .synapse | .snowflake => ['(']
  | .teradata | .exasol => [' ', '(']

theorem toList_lengthSql (definition : Definition) :
    definition.lengthSql.toList =
      match definition.length with
      | none => []
      | some length => lengthOpening definition.dialect ++ (length.text.toList ++ [')']) := by
  unfold lengthSql lengthOpening
  cases definition.length with
  | none => rfl
  | some length => cases definition.dialect <;> simp

theorem toList_nullSql (definition : Definition) :
    definition.nullSql.toList =
      if definition.nullable then [] else [' ', 'N', 'O', 'T', ' ', 'N', 'U', 'L', 'L'] := by
  unfold nullSql
  split <;> rfl

theorem toList_defaultSql (definition : Definition) :
    definition.defaultSql.toList =
      match definition.default with
      | none => []
      | some expression => ' ' :: 'D' :: ("EFAULT ".toList ++ expression.toList) := by
  unfold defaultSql
  cases definition.default with
  | none => rfl
  | some expression =>
      rw [String.toList_append]
      rfl

theorem toList_characterSetSql (definition : Definition) :
    definition.characterSetSql.toList =
      match definition.characterSet with
      | none => []
      | some set => ' ' :: 'C' :: ("HARACTER SET ".toList ++ set.name.toList) := by
  unfold characterSetSql
  cases definition.characterSet with
  | none => rfl
  | some set =>
      rw [String.toList_append]
      rfl

/-- The default, if there is one, does not end like the constraint against null. -/
def HasPlainEnd (definition : Definition) : Prop :=
  ∀ expression ∈ definition.default, ¬ " NOT NULL".toList <:+ expression.toList

instance (definition : Definition) : Decidable definition.HasPlainEnd :=
  inferInstanceAs (Decidable (∀ expression ∈ definition.default,
    ¬ " NOT NULL".toList <:+ expression.toList))

variable {first second : Definition}

/-- The default is that of another column type with the constraint against null behind it. -/
def Mimics (definition other : Definition) : Prop :=
  ∃ expression ∈ other.default, definition.default = some (expression ++ " NOT NULL")

theorem HasPlainEnd.not_mimics (plain : first.HasPlainEnd) : ¬ first.Mimics second := by
  rintro ⟨expression, -, written⟩
  exact plain _ written ⟨expression.toList, String.toList_append.symm⟩

theorem mimics_iff : first.Mimics second ↔
    first.defaultSql.toList = second.defaultSql.toList ++ " NOT NULL".toList := by
  rw [toList_defaultSql, toList_defaultSql]
  constructor
  · rintro ⟨expression, found, written⟩
    rw [Option.mem_def] at found
    simp [found, written]
  · intro same
    rcases written : first.default with _ | expression <;>
      rcases written' : second.default with _ | expression' <;>
        rw [written, written'] at same
    · cases same
    · cases same
    · cases same
    · refine ⟨expression', written', ?_⟩
      rw [written, Option.some_inj, ← String.toList_inj, String.toList_append]
      simpa using same

/-- A column type without the constraint against null that is written, in Exasol, like another
one with it. -/
structure Shadows (definition other : Definition) : Prop where
  free : definition.nullable = true
  bound : other.nullable = false
  mimics : definition.Mimics other

theorem default_eq_of_toList (same : first.defaultSql.toList = second.defaultSql.toList) :
    first.default = second.default := by
  rw [toList_defaultSql, toList_defaultSql] at same
  rcases written : first.default with _ | expression <;>
    rcases written' : second.default with _ | expression' <;>
      rw [written, written'] at same
  · cases same
  · cases same
  · simpa [String.toList_inj] using same

/-- Behind the constraint against null, a column type goes on with other words. -/
theorem nullable_eq_of_append {rest behind : List Char} (ends : ¬ [' ', 'N'] <+: rest)
    (ends' : ¬ [' ', 'N'] <+: behind)
    (same : first.nullSql.toList ++ rest = second.nullSql.toList ++ behind) :
    first.nullable = second.nullable ∧ rest = behind := by
  rw [toList_nullSql, toList_nullSql] at same
  cases written : first.nullable <;> cases written' : second.nullable <;>
    simp only [written, written', Bool.false_eq_true, ↓reduceIte, List.nil_append] at same
  · exact ⟨rfl, List.append_cancel_left same⟩
  · exact absurd ⟨_, same⟩ ends'
  · exact absurd ⟨_, same.symm⟩ ends
  · exact ⟨rfl, same⟩

/-- Two character sets end differently. -/
theorem characterSet_eq_of_append (taken : first.characterSet.isSome = second.characterSet.isSome)
    {before before' : List Char}
    (same : before ++ first.characterSetSql.toList = before' ++ second.characterSetSql.toList) :
    before = before' ∧ first.characterSet = second.characterSet := by
  rw [toList_characterSetSql, toList_characterSetSql] at same
  rcases written : first.characterSet with _ | set <;>
    rcases written' : second.characterSet with _ | set' <;>
      rw [written, written'] at same taken
  · exact ⟨by simpa using same, rfl⟩
  · cases taken
  · cases taken
  · have last := congrArg List.getLast? same
    cases set <;> cases set'
    · exact ⟨List.append_cancel_right same, rfl⟩
    · simp [CharacterSet.name] at last
    · simp [CharacterSet.name] at last
    · exact ⟨List.append_cancel_right same, rfl⟩

/-- In front of the constraint against null, defaults are told apart unless one of them brings
that constraint with it. -/
theorem default_append_eq_iff :
    first.defaultSql.toList ++ first.nullSql.toList =
        second.defaultSql.toList ++ second.nullSql.toList ↔
      (first.nullable = second.nullable ∧ first.default = second.default) ∨
        first.Shadows second ∨ second.Shadows first := by
  constructor
  · intro same
    unfold nullSql at same
    cases written : first.nullable <;> cases written' : second.nullable <;>
      simp only [written, written', Bool.false_eq_true, ↓reduceIte, String.toList_empty,
        List.append_nil] at same
    · exact .inl ⟨rfl, default_eq_of_toList (List.append_cancel_right same)⟩
    · exact .inr (.inr ⟨written', written, mimics_iff.mpr same.symm⟩)
    · exact .inr (.inl ⟨written, written', mimics_iff.mpr same⟩)
    · exact .inl ⟨rfl, default_eq_of_toList same⟩
  · have shadowed {definition other : Definition} (shadows : definition.Shadows other) :
        definition.defaultSql.toList ++ definition.nullSql.toList =
          other.defaultSql.toList ++ other.nullSql.toList := by
      rw [mimics_iff.mp shadows.mimics, nullSql, nullSql, shadows.free, shadows.bound]
      simp
    rintro (⟨nullables, defaults⟩ | shadows | shadows)
    · rw [toList_defaultSql, toList_defaultSql, toList_nullSql, toList_nullSql, nullables, defaults]
    · exact shadowed shadows
    · exact (shadowed shadows).symm

/-- Neither a default nor a character set begins like the constraint against null. -/
theorem not_prefix_defaultSql (definition : Definition) :
    ¬ [' ', 'N'] <+: definition.defaultSql.toList ++ definition.characterSetSql.toList := by
  rw [toList_defaultSql, toList_characterSetSql]
  rcases definition.default with _ | expression
  · rcases definition.characterSet with _ | set <;> simp [List.cons_prefix_cons]
  · simp [List.cons_prefix_cons]

/-- Behind its name and its length, a column type of one dialect tells apart everything else
that it consists of, except that in Exasol a default can bring the constraint with it. -/
theorem clauseSql_eq_iff (dialects : first.dialect = second.dialect)
    (types : first.type = second.type) : first.clauseSql.toList = second.clauseSql.toList ↔
      first.characterSet = second.characterSet ∧
        ((first.nullable = second.nullable ∧ first.default = second.default) ∨
          first.dialect = .exasol ∧ (first.Shadows second ∨ second.Shadows first)) := by
  have taken : first.characterSet.isSome = second.characterSet.isSome := by
    rw [first.characterSet_isSome, second.characterSet_isSome, dialects, types]
  by_cases exasol : first.dialect = .exasol
  · rw [toList_clauseSql_of_exasol exasol, toList_clauseSql_of_exasol (dialects ▸ exasol)]
    simp only [exasol, true_and]
    constructor
    · intro same
      obtain ⟨constraints, sets⟩ := characterSet_eq_of_append taken same
      exact ⟨sets, default_append_eq_iff.mp constraints⟩
    · rintro ⟨sets, constraints⟩
      rw [default_append_eq_iff.mpr constraints, toList_characterSetSql, toList_characterSetSql,
        sets]
  · rw [toList_clauseSql_of_ne exasol, toList_clauseSql_of_ne (dialects ▸ exasol)]
    simp only [exasol, false_and, or_false]
    constructor
    · intro same
      obtain ⟨nullables, left⟩ := nullable_eq_of_append first.not_prefix_defaultSql
        second.not_prefix_defaultSql same
      obtain ⟨defaults, sets⟩ := characterSet_eq_of_append taken left
      exact ⟨sets, nullables, default_eq_of_toList defaults⟩
    · rintro ⟨sets, nullables, defaults⟩
      simp only [toList_nullSql, toList_defaultSql, toList_characterSetSql, nullables, defaults,
        sets]

theorem clauses_inj (dialects : first.dialect = second.dialect) (types : first.type = second.type)
    (apart : first.dialect = .exasol → ¬ first.Mimics second ∧ ¬ second.Mimics first)
    (same : first.clauseSql.toList = second.clauseSql.toList) :
    first.nullable = second.nullable ∧ first.default = second.default ∧
      first.characterSet = second.characterSet := by
  obtain ⟨sets, ⟨nullables, defaults⟩ | ⟨exasol, shadows⟩⟩ :=
    (clauseSql_eq_iff dialects types).mp same
  · exact ⟨nullables, defaults, sets⟩
  · rcases shadows with shadows | shadows
    · exact absurd shadows.mimics (apart exasol).1
    · exact absurd shadows.mimics (apart exasol).2

/-! ## The whole column type -/

/-- The text is empty or begins like a clause: with a space and one of three letters. -/
def OpensClause (chars : List Char) : Prop :=
  chars = [] ∨ ∃ c ∈ ['N', 'D', 'C'], ∃ rest, chars = ' ' :: c :: rest

theorem OpensClause.append {chars rest : List Char} (opens : OpensClause chars)
    (goesOn : OpensClause rest) : OpensClause (chars ++ rest) := by
  rcases opens with rfl | ⟨c, letter, others, rfl⟩
  · exact goesOn
  · exact .inr ⟨c, letter, others ++ rest, rfl⟩

theorem opensClause_clauseSql (definition : Definition) :
    OpensClause definition.clauseSql.toList := by
  have null : OpensClause definition.nullSql.toList := by
    rw [toList_nullSql]
    split
    · exact .inl rfl
    · exact .inr ⟨'N', by decide, _, rfl⟩
  have default : OpensClause definition.defaultSql.toList := by
    rw [toList_defaultSql]
    split
    · exact .inl rfl
    · exact .inr ⟨'D', by decide, _, rfl⟩
  have characterSet : OpensClause definition.characterSetSql.toList := by
    rw [toList_characterSetSql]
    split
    · exact .inl rfl
    · exact .inr ⟨'C', by decide, _, rfl⟩
  by_cases exasol : definition.dialect = .exasol
  · rw [toList_clauseSql_of_exasol exasol]
    exact (default.append null).append characterSet
  · rw [toList_clauseSql_of_ne exasol]
    exact null.append (default.append characterSet)

/-- The end of a column: of the whole text, or of the column in a list. -/
def EndsColumn (rest : List Char) : Prop := ∀ c ∈ rest.head?, c = ',' ∨ c = ')'

/-- A text as it may stand behind the length of a type. -/
structure EndsLength (rest : List Char) : Prop where
  follows : followsType rest = true
  closed : ∀ dialect, ¬ lengthOpening dialect <+: rest

theorem OpensClause.endsLength {chars rest : List Char} (opens : OpensClause chars)
    (ends : EndsColumn rest) : EndsLength (chars ++ rest) := by
  have closed : ∀ text : List Char, text.head? ≠ some '(' → ¬ [' ', '('] <+: text →
      ∀ dialect, ¬ lengthOpening dialect <+: text := by
    intro text noMark noSpace dialect begins
    cases dialect with
    | synapse | snowflake =>
        obtain ⟨others, rfl⟩ := begins
        exact noMark rfl
    | teradata | exasol => exact noSpace begins
  rcases opens with rfl | ⟨c, letter, others, rfl⟩
  · rcases rest with _ | ⟨c, rest⟩
    · exact ⟨rfl, closed _ (by simp) (by simp)⟩
    · rcases ends c rfl with rfl | rfl <;> cases rest <;>
        exact ⟨rfl, closed _ (by simp) (by simp [List.cons_prefix_cons])⟩
  · simp only [List.mem_cons, List.not_mem_nil, or_false] at letter
    rcases letter with rfl | rfl | rfl <;>
      exact ⟨rfl, closed _ (by simp) (by simp [List.cons_prefix_cons])⟩

/-- A length is told apart from the clauses behind it. -/
theorem length_eq_of_append (dialects : first.dialect = second.dialect)
    {rest behind : List Char} (ends : EndsLength rest) (ends' : EndsLength behind)
    (same : first.lengthSql.toList ++ rest = second.lengthSql.toList ++ behind) :
    first.length = second.length ∧ rest = behind := by
  rw [toList_lengthSql, toList_lengthSql, ← dialects] at same
  rcases written : first.length with _ | length <;>
    rcases written' : second.length with _ | length' <;>
      simp only [written, written', List.append_assoc, List.nil_append] at same
  · exact ⟨rfl, same⟩
  · exact absurd ⟨_, same.symm⟩ (ends.closed first.dialect)
  · exact absurd ⟨_, same⟩ (ends'.closed first.dialect)
  · have inside : ∀ length : Length, ∀ c ∈ length.text.toList, decide (c ≠ ')') = true :=
      fun length c member => decide_eq_true fun closes => length.not_mem_text (closes ▸ member)
    obtain ⟨texts, left⟩ := append_inj_of_head (inside length) (inside length') (by simp) (by simp)
      (List.append_cancel_left same)
    have lengths : length = length' := by
      rw [Length.mk.injEq]
      exact String.toList_inj.mp texts
    exact ⟨congrArg some lengths, List.append_cancel_left left⟩

theorem followsType_lengthSql (definition : Definition) {rest : List Char}
    (ends : EndsLength rest) : followsType (definition.lengthSql.toList ++ rest) = true := by
  rw [toList_lengthSql]
  cases definition.length with
  | none => exact ends.follows
  | some length =>
      change followsType
        (lengthOpening definition.dialect ++ (length.text.toList ++ [')']) ++ rest) = true
      cases definition.dialect <;> cases length.text.toList <;> rfl

/-- Name and length of a type are told apart from the clauses and the text behind them. -/
theorem type_length_eq_of_append (dialects : first.dialect = second.dialect)
    {rest behind : List Char} (ends : EndsColumn rest) (ends' : EndsColumn behind)
    (same : first.sql.toList ++ rest = second.sql.toList ++ behind) :
    first.type = second.type ∧ first.length = second.length ∧
      first.clauseSql.toList ++ rest = second.clauseSql.toList ++ behind := by
  have endsLength := first.opensClause_clauseSql.endsLength ends
  have endsLength' := second.opensClause_clauseSql.endsLength ends'
  simp only [toList_sql, List.append_assoc] at same
  obtain ⟨types, left⟩ := first.dialect.separates_typeNames first.type_mem
    (dialects ▸ second.type_mem) (first.followsType_lengthSql endsLength)
    (second.followsType_lengthSql endsLength') same
  obtain ⟨lengths, left⟩ := length_eq_of_append dialects endsLength endsLength' left
  exact ⟨types, lengths, left⟩

/-- Column types of one dialect have the same text exactly if they agree in every part, except
that in Exasol a type without the constraint against null can be written like one with it. -/
theorem sql_eq_iff (dialects : first.dialect = second.dialect) : first.sql = second.sql ↔
    first.type = second.type ∧ first.length = second.length ∧
      first.characterSet = second.characterSet ∧
        ((first.nullable = second.nullable ∧ first.default = second.default) ∨
          first.dialect = .exasol ∧ (first.Shadows second ∨ second.Shadows first)) := by
  constructor
  · intro same
    have texts : first.sql.toList ++ [] = second.sql.toList ++ [] := by rw [same]
    obtain ⟨types, lengths, clauses⟩ :=
      type_length_eq_of_append dialects (by simp [EndsColumn]) (by simp [EndsColumn]) texts
    rw [List.append_cancel_right_eq, clauseSql_eq_iff dialects types] at clauses
    exact ⟨types, lengths, clauses⟩
  · rintro ⟨types, lengths, clauses⟩
    rw [← String.toList_inj, toList_sql, toList_sql, toList_lengthSql, toList_lengthSql, dialects,
      types, lengths, (clauseSql_eq_iff dialects types).mpr clauses]

theorem eq_of_sql_eq (dialects : first.dialect = second.dialect)
    (apart : first.dialect = .exasol → ¬ first.Mimics second ∧ ¬ second.Mimics first)
    (same : first.sql = second.sql) : first = second := by
  obtain ⟨types, lengths, sets, ⟨nullables, defaults⟩ | ⟨exasol, shadows⟩⟩ :=
    (sql_eq_iff dialects).mp same
  · exact ext_of_parts dialects types lengths nullables defaults sets
  · rcases shadows with shadows | shadows
    · exact absurd shadows.mimics (apart exasol).1
    · exact absurd shadows.mimics (apart exasol).2

/-- **The text of a column type tells every part of it**, among the types of its dialect. Only
in Exasol, where the default stands in front of the constraint against null, defaults must not
end like that constraint. -/
theorem sql_eq_iff_parts (dialects : first.dialect = second.dialect)
    (plain : first.dialect = .exasol → first.HasPlainEnd ∧ second.HasPlainEnd) :
    first.sql = second.sql ↔
      first.type = second.type ∧ first.length = second.length ∧
        first.nullable = second.nullable ∧ first.default = second.default ∧
          first.characterSet = second.characterSet := by
  have apart : ¬ (first.dialect = .exasol ∧ (first.Shadows second ∨ second.Shadows first)) := by
    rintro ⟨exasol, shadows | shadows⟩
    · exact (plain exasol).1.not_mimics shadows.mimics
    · exact (plain exasol).2.not_mimics shadows.mimics
  rw [sql_eq_iff dialects, or_iff_left apart]
  tauto

/-- A column type of Exasol of several words, with a length and a default. -/
def varying (nullable : Bool) (default : String) : Definition where
  dialect := .exasol
  type := "CHAR VARYING"
  length := some ⟨"10", rfl⟩
  nullable := nullable
  default := some default
  characterSet := none
  type_mem := by decide
  characterSet_isSome := by decide

/-- The constraint against null inside a literal is told from the one behind it. -/
theorem sql_eq_iff_parts_varying :
    let first := varying true "'a NOT NULL'"
    let second := varying false "'a'"
    first.dialect = second.dialect ∧
      (first.dialect = .exasol → first.HasPlainEnd ∧ second.HasPlainEnd) ∧
      first.sql ≠ second.sql := by
  intro first second
  have dialects : first.dialect = second.dialect := rfl
  have plain : first.HasPlainEnd ∧ second.HasPlainEnd := by decide
  refine ⟨dialects, fun _ => plain, ?_⟩
  rw [Ne, sql_eq_iff_parts dialects fun _ => plain]
  exact fun parts => absurd parts.2.2.1 (by decide)

/-- The default can be read back from a statement: it neither ends like the constraint
against null nor holds a comma or a closing parenthesis. -/
structure HasReadableDefault (definition : Definition) : Prop where
  plainEnd : definition.HasPlainEnd
  unbroken : ∀ expression ∈ definition.default, ',' ∉ expression.toList ∧ ')' ∉ expression.toList

instance (definition : Definition) : Decidable definition.HasReadableDefault :=
  decidable_of_iff _ ⟨fun parts => ⟨parts.1, parts.2⟩, fun readable =>
    And.intro readable.plainEnd readable.unbroken⟩

/-- The character ends no column. -/
def staysInColumn (c : Char) : Bool := c ≠ ',' && c ≠ ')'

theorem HasReadableDefault.all_staysInColumn {definition : Definition}
    (readable : definition.HasReadableDefault) :
    definition.clauseSql.toList.all staysInColumn = true := by
  have null : definition.nullSql.toList.all staysInColumn = true := by
    rw [toList_nullSql]
    split <;> decide
  have default : definition.defaultSql.toList.all staysInColumn = true := by
    rw [toList_defaultSql]
    rcases written : definition.default with _ | expression
    · rfl
    · obtain ⟨comma, closing⟩ := readable.unbroken expression written
      have free : expression.toList.all staysInColumn = true := by
        refine List.all_eq_true.mpr fun c member => ?_
        have noComma : c ≠ ',' := fun same => comma (same ▸ member)
        have noClosing : c ≠ ')' := fun same => closing (same ▸ member)
        simp [staysInColumn, noComma, noClosing]
      simp only [List.all_cons, List.all_append, free, Bool.and_true]
      decide
  have characterSet : definition.characterSetSql.toList.all staysInColumn = true := by
    rw [toList_characterSetSql]
    rcases definition.characterSet with _ | _ | _ <;> decide
  by_cases exasol : definition.dialect = .exasol
  · simp [toList_clauseSql_of_exasol exasol, null, default, characterSet]
  · simp [toList_clauseSql_of_ne exasol, null, default, characterSet]

/-- **The column types of a dialect are told apart**, in front of whatever ends a column. -/
theorem separates_sql (dialect : Dialect) :
    Separates (fun definition : Definition => definition.sql.toList)
      (fun definition => definition.dialect = dialect ∧ definition.HasReadableDefault)
      EndsColumn := by
  intro first second admitted admitted' rest behind ends ends' same
  have dialects := admitted.1.trans admitted'.1.symm
  have stops : ∀ rest, EndsColumn rest → ∀ c ∈ rest.head?, staysInColumn c = false := by
    intro rest ends c here
    rcases ends c here with rfl | rfl <;> rfl
  obtain ⟨types, lengths, left⟩ := type_length_eq_of_append dialects ends ends' same
  obtain ⟨clauses, left⟩ := append_inj_of_head
    (List.all_eq_true.mp admitted.2.all_staysInColumn)
    (List.all_eq_true.mp admitted'.2.all_staysInColumn) (stops rest ends) (stops behind ends') left
  obtain ⟨nullables, defaults, sets⟩ := clauses_inj dialects types
    (fun _ => ⟨admitted.2.plainEnd.not_mimics, admitted'.2.plainEnd.not_mimics⟩) clauses
  exact ⟨ext_of_parts dialects types lengths nullables defaults sets, left⟩

end Definition

end Warehouse
