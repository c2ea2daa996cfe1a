import Warehouse.Access
import Warehouse.Proofs.Request.Distinction
import Warehouse.Request.Schema

/-! # Names that reach a statement

A name is admitted if it has the form of names, and also if it has this form up to one line
feed at its very end. Nothing else is admitted, and what is quoted in the statement for a
request are admitted names only (`Dialect.checkName_admits`). -/

namespace Warehouse

/-! ## The form of names -/

/-- A character of names: a letter or a digit of ASCII, an underscore or a dash. -/
def IsNameLetter (c : Char) : Prop :=
  ('A' ≤ c ∧ c ≤ 'Z') ∨ ('a' ≤ c ∧ c ≤ 'z') ∨ ('0' ≤ c ∧ c ≤ '9') ∨ c = '_' ∨ c = '-'

/-- The characters are those of a name: one or more characters of names, and for a table of
Synapse possibly one hash in front of them. -/
inductive NameForm (dialect : Dialect) (kind : ObjectKind) : List Char → Prop where
  | plain {letters : List Char} (present : letters ≠ [])
      (allowed : ∀ c ∈ letters, IsNameLetter c) : NameForm dialect kind letters
  | marked {letters : List Char} (session : dialect = .synapse ∧ kind = .table)
      (present : letters ≠ []) (allowed : ∀ c ∈ letters, IsNameLetter c) :
      NameForm dialect kind ('#' :: letters)

/-- The name has the form of names, or has it in front of one last line feed. -/
def Dialect.Admits (dialect : Dialect) (kind : ObjectKind) (name : String) : Prop :=
  NameForm dialect kind name.toList ∨
    ∃ front, name.toList = front ++ ['\n'] ∧ NameForm dialect kind front

theorem isNameChar_iff {c : Char} : isNameChar c = true ↔ IsNameLetter c := by
  have ranges : isNameChar c = (decide ('A' ≤ c ∧ c ≤ 'Z') ||
      decide ('a' ≤ c) && decide (c ≤ 'z') || decide ('0' ≤ c) && decide (c ≤ '9') ||
      c == '_' || c == '-') := rfl
  simp only [ranges, IsNameLetter, Bool.or_eq_true, Bool.and_eq_true, decide_eq_true_eq,
    beq_iff_eq, or_assoc]

theorem isPlainName_iff {letters : List Char} :
    isPlainName letters = true ↔ letters ≠ [] ∧ ∀ c ∈ letters, IsNameLetter c := by
  simp [isPlainName, isNameChar_iff]

theorem IsNameLetter.ne {c other : Char} (letter : IsNameLetter c)
    (foreign : isNameChar other = false) : c ≠ other := by
  rintro rfl
  rw [isNameChar_iff.mpr letter] at foreign
  cases foreign

theorem NameForm.ne_break {dialect : Dialect} {kind : ObjectKind} {chars : List Char}
    (form : NameForm dialect kind chars) : ∀ c ∈ chars, c ≠ '\n' := by
  have letters {c : Char} (letter : IsNameLetter c) : c ≠ '\n' := letter.ne (by decide)
  cases form with
  | plain _ allowed => exact fun c member => letters (allowed c member)
  | marked _ _ allowed =>
      rw [List.forall_mem_cons]
      exact ⟨by decide, fun c member => letters (allowed c member)⟩

namespace Dialect

variable {dialect : Dialect} {kind : ObjectKind} {name : String}

theorem isPlainName_nameBody_iff {chars : List Char} :
    isPlainName (dialect.nameBody kind chars) = true ↔ NameForm dialect kind chars := by
  constructor
  · intro plain
    unfold nameBody at plain
    split at plain
    · split at plain
      · rename_i session
        obtain ⟨present, allowed⟩ := isPlainName_iff.mp plain
        exact .marked session present allowed
      · obtain ⟨present, allowed⟩ := isPlainName_iff.mp plain
        exact .plain present allowed
    · obtain ⟨present, allowed⟩ := isPlainName_iff.mp plain
      exact .plain present allowed
  · intro form
    cases form with
    | plain present allowed =>
        have unmarked : dialect.nameBody kind chars = chars := by
          unfold nameBody
          split
          · exact absurd rfl ((allowed '#' List.mem_cons_self).ne (by decide))
          · rfl
        rw [unmarked]
        exact isPlainName_iff.mpr ⟨present, allowed⟩
    | marked session present allowed =>
        rw [nameBody, if_pos session]
        exact isPlainName_iff.mpr ⟨present, allowed⟩

/-- The check of names admits those of the right form, with or without a last line feed. -/
theorem acceptsName_iff : dialect.acceptsName kind name = true ↔ dialect.Admits kind name := by
  rw [acceptsName, isPlainName_nameBody_iff]
  exact Text.withoutFinalBreak_iff fun _ form broken => form.ne_break '\n' broken rfl

theorem checkName_eq_ok_iff :
    dialect.checkName kind name = .ok () ↔ dialect.acceptsName kind name = true := by
  unfold checkName
  split <;> simp_all

end Dialect

/-! ## The names in a statement -/

/-- The name that a piece quotes, if it quotes one. -/
def Piece.quotedName? : Piece → Option String
  | name identifier => some identifier
  | plain _ => none
  | literal _ => none

namespace Sql

/-- The names that a statement quotes, in their order. -/
def quotedNames (sql : Sql) : List String := sql.filterMap Piece.quotedName?

@[simp] theorem quotedNames_nil : quotedNames [] = [] := rfl

@[simp] theorem quotedNames_plain (fixed : String) (rest : Sql) :
    quotedNames (.plain fixed :: rest) = quotedNames rest := rfl

@[simp] theorem quotedNames_name (identifier : String) (rest : Sql) :
    quotedNames (.name identifier :: rest) = identifier :: quotedNames rest := rfl

@[simp] theorem quotedNames_append (first second : Sql) :
    quotedNames (first ++ second) = quotedNames first ++ quotedNames second :=
  List.filterMap_append

@[simp] theorem quotedNames_names (separator : String) (columns : List String) :
    quotedNames (names separator columns) = columns := by
  unfold names
  induction columns with
  | nil => rfl
  | cons column others ih =>
      cases others with
      | nil => rfl
      | cons next others =>
          simp only [List.map_cons, List.intersperse_cons_cons, quotedNames_name,
            quotedNames_plain] at ih ⊢
          rw [ih]

theorem quotedNames_intercalate (separator : String) (parts : List Sql) :
    quotedNames ([Piece.plain separator].intercalate parts) = parts.flatMap quotedNames := by
  induction parts with
  | nil => rfl
  | cons part others ih =>
      cases others with
      | nil => simp
      | cons next others =>
          rw [List.intercalate_cons_cons]
          simp [ih]

theorem quotedNames_qualified {schema table : String} (present : schema ≠ "") :
    quotedNames (qualified schema table) = [schema, table] := by
  simp [qualified, present]

@[simp] theorem quotedNames_columns (separator : String) (columns : Columns) :
    quotedNames (columns.sql separator) = columns.names.map Value.wording := by
  rw [Columns.sql, quotedNames_intercalate, List.flatMap_map, Columns.names, List.map_map,
    List.map_eq_flatMap]
  rfl

@[simp] theorem quotedNames_keys (layout : KeyLayout) (keys : List Value) :
    quotedNames (layout.sql keys) = keys.map Value.wording := by
  by_cases none : keys = [] <;> simp [KeyLayout.sql, none]

@[simp] theorem quotedNames_parenthesised (columns : List String) :
    quotedNames (parenthesised columns) = columns := by
  by_cases none : columns = [] <;> simp [parenthesised, none]

@[simp] theorem quotedNames_storageClause (distribution : Option Distribution)
    (index : Option Index) :
    quotedNames (storageClause distribution index) =
      (index.map (·.columns)).getD [] ++ (distribution.map (·.columns)).getD [] := by
  cases distribution <;> cases index <;>
    simp [storageClause, Index.option, Distribution.option]

end Sql

/-- A name that is to be written, with the kind of its object. -/
abbrev Naming := ObjectKind × String

/-- A table is written by its schema and its own name. -/
def TableName.namings (name : TableName) : List Naming :=
  [(.schema, name.schema), (.table, name.table)]

/-- Columns are written by their names. -/
def columnNamings (names : List String) : List Naming := names.map (.column, ·)

@[simp] theorem map_snd_columnNamings (names : List String) :
    (columnNamings names).map Prod.snd = names := by
  rw [columnNamings, List.map_map]
  exact List.map_id names

namespace TableRequest

/-- The names that the statement for a request has to quote, in their order. -/
def namings (dialect : Dialect) : TableRequest → List Naming
  | create name columns keys distribution index =>
      name.namings ++ columnNamings (columns.names.map Value.wording) ++
        columnNamings (keys.map Value.wording) ++
        (if dialect = .synapse then
          columnNamings ((index.map (·.columns)).getD [] ++ (distribution.map (·.columns)).getD [])
         else [])
  | createTemporary name columns =>
      name.namings ++ columnNamings (columns.names.map Value.wording)
  | drop name | truncate name => name.namings
  | rename name newTable =>
      name.namings ++
        match dialect with
        | .synapse | .exasol => [(.table, newTable)]
        | .teradata | .snowflake => TableName.namings ⟨name.schema, newTable⟩

variable {dialect : Dialect} {request : TableRequest} {sql : Sql}

theorem admits_of_nameFaults {kind : ObjectKind} {name : String}
    (none : dialect.nameFaults kind name = []) : dialect.Admits kind name :=
  Dialect.acceptsName_iff.mp (Dialect.nameFaults_eq_nil_iff.mp none)

theorem admits_namings {name : TableName} (none : dialect.tableNameFaults name = []) :
    ∀ naming ∈ name.namings, dialect.Admits naming.1 naming.2 := by
  obtain ⟨schema, table⟩ := Dialect.tableNameFaults_eq_nil_iff.mp none
  simp [TableName.namings, ← Dialect.acceptsName_iff, schema, table]

theorem admits_columnNamings {names : List Value}
    (accepted : ∀ name ∈ names, dialect.AcceptsColumnName name) :
    ∀ naming ∈ columnNamings (names.map Value.wording), dialect.Admits naming.1 naming.2 := by
  simp only [columnNamings, List.map_map, List.forall_mem_map]
  intro name member
  obtain ⟨word, rfl, admitted⟩ := accepted name member
  exact Dialect.acceptsName_iff.mp admitted

theorem admits_creationNamings {name : TableName} {columns : Columns} {keys : List Value}
    (none : dialect.creationFaults name columns keys = []) :
    ∀ naming ∈ name.namings ++ columnNamings (columns.names.map Value.wording) ++
      columnNamings (keys.map Value.wording), dialect.Admits naming.1 naming.2 := by
  obtain ⟨table, -, own, keyed⟩ := Dialect.creationFaults_eq_nil_iff.mp none
  have columnNames : ∀ given ∈ columns.names, dialect.AcceptsColumnName given := by
    simp only [Columns.names, List.forall_mem_map]
    exact fun column member => (own column member).1
  have keyNames := (Dialect.keyFaults_eq_nil_iff.mp keyed).1
  simp only [List.forall_mem_append]
  exact ⟨⟨admits_namings (Dialect.tableNameFaults_eq_nil_iff.mpr table),
    admits_columnNamings columnNames⟩, admits_columnNamings keyNames⟩

/-- All names that the statement for an accepted request has to quote are admitted for the
kinds of their objects. -/
theorem admits_of_faults (none : request.faults dialect = []) :
    ∀ naming ∈ request.namings dialect, dialect.Admits naming.1 naming.2 := by
  cases request with
  | create name columns keys distribution index =>
      obtain ⟨created, stored⟩ := List.append_eq_nil_iff.mp none
      refine List.forall_mem_append.mpr ⟨admits_creationNamings created, ?_⟩
      by_cases synapse : dialect = .synapse
      · rw [if_pos synapse] at stored ⊢
        have columns := List.flatMap_eq_nil_iff.mp (List.append_eq_nil_iff.mp stored).2
        simp only [columnNamings, List.forall_mem_map]
        intro column member
        have sound := columns column (by
          rcases List.mem_append.mp member with indexed | distributed
          · exact List.mem_append_right _ indexed
          · exact List.mem_append_left _ distributed)
        exact Dialect.acceptsName_iff.mp (Dialect.storageColumnFaults_eq_nil_iff.mp sound).1
      · simp [synapse]
  | createTemporary name columns =>
      by_cases exasol : dialect = .exasol
      · simp [faults, exasol] at none
      · rw [faults, if_neg exasol] at none
        have created := admits_creationNamings (List.append_eq_nil_iff.mp none).1
        exact fun naming member => created naming (List.mem_append_left _ member)
  | drop name | truncate name => exact admits_namings none
  | rename name newTable =>
      obtain ⟨old, renamed⟩ := List.append_eq_nil_iff.mp none
      have former := admits_namings old
      have new := admits_of_nameFaults renamed
      refine List.forall_mem_append.mpr ⟨former, ?_⟩
      cases dialect with
      | synapse | exasol => exact List.forall_mem_singleton.mpr new
      | teradata | snowflake =>
          exact List.forall_mem_cons.mpr
            ⟨former _ List.mem_cons_self, List.forall_mem_singleton.mpr new⟩

/-- The statement for an accepted request quotes the names that it has to quote. -/
theorem quotedNames_sql (none : request.faults dialect = []) :
    (request.sql dialect).quotedNames = (request.namings dialect).map Prod.snd := by
  have schema := schema_ne_empty none
  rw [sql_eq, Sql.quotedNames_append, Sql.quotedNames_plain, Sql.quotedNames_qualified schema]
  cases request with
  | create name columns keys distribution index =>
      by_cases synapse : dialect = .synapse <;>
        simp [TableRequest.name, remainder, namings, TableName.namings, synapse]
  | createTemporary name columns =>
      simp [TableRequest.name, remainder, namings, TableName.namings]
  | drop name => rfl
  | truncate name => cases dialect <;> rfl
  | rename name newTable =>
      have present : name.schema ≠ "" := schema
      cases dialect <;>
        simp [TableRequest.name, remainder, namings, TableName.namings,
          Sql.quotedNames_qualified present]

end TableRequest

namespace SchemaRequest

variable {dialect : Dialect} {request : SchemaRequest} {sql : Sql}

theorem quotedNames_sql : (request.sql dialect).quotedNames = [request.name] := by
  cases request with
  | create name => cases dialect <;> rfl
  | drop name cascade =>
      by_cases teradata : dialect = .teradata
      · simp [SchemaRequest.sql, SchemaRequest.name, teradata]
      · by_cases whole : (drop name cascade).cascades dialect = true <;>
          simp [SchemaRequest.sql, SchemaRequest.name, teradata, whole]
  | createDatabase | dropDatabase | emptyDatabase => rfl

theorem admits_of_compile (compiled : request.compile dialect = .ok sql) :
    dialect.Admits .schema request.name ∧ sql.quotedNames = [request.name] := by
  unfold compile at compiled
  split at compiled
  · rename_i none
    cases compiled
    have named := (List.append_eq_nil_iff.mp (List.append_eq_nil_iff.mp none).1).2
    exact ⟨TableRequest.admits_of_nameFaults named, quotedNames_sql⟩
  · cases compiled

end SchemaRequest

/-! ## The check of names -/

/-- **What the check of a name admits.** A name passes exactly if it has the form of names,
up to one last line feed; every other name is refused as an invalid identifier. The names
that a statement quotes are those of its request, each admitted for the kind of its
object. -/
theorem Dialect.checkName_admits (dialect : Dialect) (kind : ObjectKind) (name : String) :
    (dialect.acceptsName kind name = true ↔ dialect.Admits kind name) ∧
      (dialect.checkName kind name = .ok () ↔ dialect.Admits kind name) ∧
      (¬ dialect.Admits kind name →
        dialect.checkName kind name = .error (.request (.invalidName kind name)) ∧
          (RequestFault.invalidName kind name).code? = some .invalidIdentifier) ∧
      (∀ (request : TableRequest) (sql : Sql), request.compile dialect = .ok sql →
        sql.quotedNames = (request.namings dialect).map Prod.snd ∧
          ∀ naming ∈ request.namings dialect, dialect.Admits naming.1 naming.2) ∧
      ∀ (request : SchemaRequest) (sql : Sql), request.compile dialect = .ok sql →
        sql.quotedNames = [request.name] ∧ dialect.Admits .schema request.name := by
  refine ⟨acceptsName_iff, checkName_eq_ok_iff.trans acceptsName_iff, ?_, ?_, ?_⟩
  · intro refused
    refine ⟨if_neg ?_, rfl⟩
    exact fun accepted => refused (acceptsName_iff.mp accepted)
  · intro request sql compiled
    obtain ⟨none, rfl⟩ := TableRequest.compile_eq_ok_iff.mp compiled
    exact ⟨TableRequest.quotedNames_sql none, TableRequest.admits_of_faults none⟩
  · intro request sql compiled
    obtain ⟨admitted, quoted⟩ := SchemaRequest.admits_of_compile compiled
    exact ⟨quoted, admitted⟩

/-- A line feed is no character of names, but a name that ends in one passes the check and
reaches the statement. -/
theorem Dialect.checkName_break :
    Dialect.checkName .exasol .table "t\n" = .ok () ∧
      ¬ NameForm .exasol .table "t\n".toList ∧
      TableRequest.compile .exasol (.drop ⟨"s", "t\n"⟩) =
        .ok [.plain "DROP TABLE ", .name "s", .plain ".", .name "t\n"] := by
  refine ⟨by decide, fun form => ?_, by decide⟩
  exact form.ne_break '\n' (by decide) rfl

end Warehouse
