import Mathlib.Data.List.Nodup
import Mathlib.Data.List.Sort
import Warehouse.Proofs.Catalog.ColumnRow
import Warehouse.Proofs.Catalog.Description
import Warehouse.Proofs.Catalog.WrittenType

/-! # Reading a reported Snowflake table

Snowflake shows tables whose names are like the one asked for, describes whatever belongs to
a table, and numbers the keys. The row of the table is the only one with its exact name
(`Snowflake.findTable_eq`), rows that describe no column are passed over
(`Snowflake.DescribesColumns.read_eq`), and keys are read in the order of their numbers
(`Snowflake.NumbersKeys.read_eq`). Reading any such report of a table yields the table
(`Snowflake.definition_of_reports`). -/

namespace Warehouse.Catalog.Snowflake

open Warehouse.Computation

/-! ## Tables that are shown -/

/-- The row shows the table: its exact name, the rest of its full name, and whether it is
temporary. -/
structure ShowsTable (row : Row) (definition : TableDefinition) : Prop where
  name : row.cell "name" = .ok (.text definition.name.table)
  database : ∃ database, row.text? "database_name" = .ok (some database)
  schema : ∃ schema, row.text? "schema_name" = .ok (some schema)
  kind : ∃ kind, row.text? "kind" = .ok kind ∧
    (definition.temporary = true ↔ ∃ word ∈ kind, Text.upper word = "TEMPORARY")

/-- One of the rows, which have distinct names, shows the table. -/
structure Shows (rows : List Row) (definition : TableDefinition) : Prop where
  named : ∀ row ∈ rows, ∃ name, row.cell "name" = .ok name
  distinct : rows.Pairwise fun first second => first.cell "name" ≠ second.cell "name"
  shown : ∃ row ∈ rows, ShowsTable row definition

variable {definition : TableDefinition} {row : Row} {rows : List Row}

/-- Among rows with distinct names the one with the exact name is found. -/
theorem findTable_eq {table : String} (named : ∀ row ∈ rows, ∃ name, row.cell "name" = .ok name)
    (distinct : rows.Pairwise fun first second => first.cell "name" ≠ second.cell "name")
    (member : row ∈ rows) (same : row.cell "name" = .ok (.text table)) :
    findTable table rows = .ok (some row) := by
  induction rows with
  | nil => cases member
  | cons first rest ih =>
      rw [List.forall_mem_cons] at named
      rw [List.pairwise_cons] at distinct
      obtain ⟨name, cell⟩ := named.1
      rcases List.mem_cons.mp member with rfl | behind
      · simp [findTable, same, bind, Except.bind, pure, Except.pure]
      · -- The name is taken by a later row, so the search passes this one.
        have other : name ≠ .text table := by
          rintro rfl
          exact distinct.1 row behind (cell.trans same.symm)
        have further := ih named.2 distinct.2 behind
        cases name <;> simp_all [findTable, bind, Except.bind]

theorem fullName_of_shows (shows : ShowsTable row definition) :
    ∃ object, fullName row = .ok object := by
  obtain ⟨named, ⟨database, databaseCell⟩, ⟨schema, schemaCell⟩, -⟩ := shows
  have nameCell : row.text? "name" = .ok (some (Text.trim definition.name.table)) :=
    Row.text?_of_cell named
  have parts : ["database_name", "schema_name", "name"].mapM row.text? =
      .ok [some database, some schema, some (Text.trim definition.name.table)] :=
    mapM_eq_ok_iff.mpr (.cons databaseCell (.cons schemaCell (.cons nameCell .nil)))
  rw [fullName, parts]
  exact ⟨_, rfl⟩

/-- A table that is shown is found. -/
theorem Shows.lookup_eq (shows : Shows rows definition) :
    ∃ object, (lookup definition.name).read rows = .ok (some object) := by
  obtain ⟨row, member, shown⟩ := shows.shown
  obtain ⟨object, whole⟩ := fullName_of_shows shown
  have found := findTable_eq shows.named shows.distinct member shown.name
  simp only [lookup, bind_eq_ok_iff, lift_cell_eq_ok_iff]
  refine ⟨some object, some row, found, bind_eq_ok_iff.mpr ⟨object, ?_, rfl⟩⟩
  exact lift_cell_eq_ok_iff.mpr whole

theorem wordOr_eq_temporary_iff {kind : Option String} :
    wordOr "" kind = "TEMPORARY" ↔ ∃ word ∈ kind, Text.upper word = "TEMPORARY" := by
  have empty : Text.upper "" = "" := by decide
  cases kind with
  | none => simp [wordOr]
  | some word => by_cases blank : word = "" <;> simp [wordOr, blank, empty]

/-- Whether a table that is shown is temporary is read. -/
theorem Shows.temporary_eq (shows : Shows rows definition) :
    (temporary definition.name).read rows = .ok (some definition.temporary) := by
  obtain ⟨row, member, shown⟩ := shows.shown
  have found := findTable_eq shows.named shows.distinct member shown.name
  obtain ⟨kind, cell, tells⟩ := shown.kind
  have told : decide (wordOr "" kind = "TEMPORARY") = definition.temporary := by
    rw [← Bool.coe_iff_coe, decide_eq_true_iff, wordOr_eq_temporary_iff, tells]
  simp only [temporary, bind_eq_ok_iff, lift_cell_eq_ok_iff]
  refine ⟨some row, found, bind_eq_ok_iff.mpr ⟨kind, lift_cell_eq_ok_iff.mpr cell, ?_⟩⟩
  rw [told]
  rfl

/-! ## Columns -/

/-- The normal text of a type: its name, and behind it its length in parentheses. A name of
two words has no length. -/
inductive Writes (type : String) : String → Option Length → Prop where
  | bare : Writes type type none
  | sized {length : Length} (single : type ≠ "DOUBLE PRECISION") (plain : length.IsPlain) :
      Writes type (type ++ "(" ++ length.text ++ ")") (some length)

/-- The row describes the column. -/
structure DescribesColumn (row : Row) (column : Column) : Prop where
  dialect : column.dialect = .snowflake
  name : row.cell "name" = .ok column.name
  type : ∃ written text, row.text "type" = .ok written ∧
    Writes column.definition.type text column.definition.length ∧
    Text.Spells written.toList text.toList
  nullable : row.text? "null?" = .ok (some (if column.definition.nullable then "Y" else "N"))
  default : ∃ cell, row.cell "default" = .ok cell ∧ cell.text? = .ok column.definition.default

/-- The rows of the kind of columns describe the columns in their order. Between them may
stand rows of other kinds, which are not looked at further. -/
inductive DescribesColumns : List Row → List Column → Prop where
  | nil : DescribesColumns [] []
  | column {row : Row} {column : Column} {rows : List Row} {columns : List Column}
      (kind : ∃ word, row.text? "kind" = .ok (some word) ∧ Text.upper word = "COLUMN")
      (describes : DescribesColumn row column) (behind : DescribesColumns rows columns) :
      DescribesColumns (row :: rows) (column :: columns)
  | other {row : Row} {rows : List Row} {columns : List Column}
      (kind : ∃ word, row.text? "kind" = .ok (some word) ∧ word ≠ "" ∧
        Text.upper word ≠ "COLUMN") (behind : DescribesColumns rows columns) :
      DescribesColumns (row :: rows) columns

variable {type text : String} {told : Option Length}

theorem forall_isTypeChar_of_mem_typeNames (known : type ∈ Dialect.snowflake.typeNames)
    (single : type ≠ "DOUBLE PRECISION") :
    (∀ c ∈ type.toList, isTypeChar c = true) ∧ type.toList.isEmpty = false := by
  have all : ∀ type ∈ Dialect.snowflake.typeNames, type ≠ "DOUBLE PRECISION" →
      type.toList.all isTypeChar = true ∧ type.toList.isEmpty = false := by decide
  exact (all type known single).imp_left List.all_eq_true.mp

theorem splitType_of_writes (known : type ∈ Dialect.snowflake.typeNames)
    (writes : Writes type text told) :
    splitType text.toList = (type.toList, told.map fun length => length.text.toList) := by
  cases writes with
  | bare =>
      have all : ∀ type ∈ Dialect.snowflake.typeNames,
          splitType type.toList = (type.toList, none) := by decide
      exact all type known
  | @sized length single plain =>
      obtain ⟨solid, present⟩ := forall_isTypeChar_of_mem_typeNames known single
      have opening : ∀ c ∈ ('(' :: (length.text.toList ++ [')'])).head?, isTypeChar c = false := by
        rintro _ ⟨⟩
        decide
      obtain ⟨name, rest⟩ := takeWhile_append_of_head solid opening
      obtain ⟨inside, behind⟩ := takeWhile_append_mark length.not_mem_text []
      have parts : (type ++ "(" ++ length.text ++ ")").toList =
          type.toList ++ '(' :: (length.text.toList ++ [')']) := by simp
      simp only [parts, splitType, name, rest, present, inside, behind, Bool.false_eq_true,
        ↓reduceIte, Option.map_some]

theorem Writes.isSingleSpaced (writes : Writes type text told)
    (known : type ∈ Dialect.snowflake.typeNames) :
    Text.isSingleSpaced true text.toList = true := by
  have name := Dialect.isSingleSpaced_of_mem_typeNames known
  cases writes with
  | bare => exact name
  | @sized length single plain =>
      have parts : (type ++ "(" ++ length.text ++ ")").toList =
          type.toList ++ ("(".toList ++ (length.text.toList ++ ")".toList)) := by
        simp only [String.toList_append, List.append_assoc]
      rw [parts, Text.isSingleSpaced_append name, Text.isSingleSpaced_append (by decide),
        Text.isSingleSpaced_append plain.isSingleSpaced]
      decide

/-- A column that a row describes is read, declared plainly. -/
theorem DescribesColumn.column_eq {described : Column}
    (describes : DescribesColumn row described) : column row = .ok described.plain := by
  obtain ⟨own, nameCell, ⟨written, text, typeCell, writes, spells⟩, nullCell, cell, defaultCell,
    told⟩ := describes
  have known := type_mem_of_dialect own
  have split : splitType (Text.capitalWords written).toList = (described.definition.type.toList,
      described.definition.length.map fun length => length.text.toList) := by
    rw [Text.capitalWords_of_spells spells (writes.isSingleSpaced known)]
    exact splitType_of_writes known writes
  have nullable : decide (wordOr "Y" (some (if described.definition.nullable then "Y" else "N")) =
      "Y") = described.definition.nullable := by
    cases described.definition.nullable <;> decide
  have made := make_of_dialect own (by decide)
  simp only [column, bind_eq_ok_iff, lift_cell_eq_ok_iff, lift_type_eq_ok_iff]
  refine ⟨written, typeCell, cell, defaultCell, _, nameCell, _, nullCell, _, told,
    described.definition, ?_, Column.ofName_eq_ok_iff.mpr ⟨rfl, rfl, rfl⟩⟩
  rw [split, nullable]
  simpa [String.ofList_toList, Function.comp_def] using made

theorem wordOr_some {word standard : String} (present : word ≠ "") :
    wordOr standard (some word) = Text.upper word := by
  rw [wordOr, if_neg present]

theorem describesColumn_eq {word : String} (cell : row.text? "kind" = .ok (some word))
    (present : word ≠ "") : describesColumn row = .ok (Text.upper word = "COLUMN") := by
  rw [describesColumn, cell, ← wordOr_some present]
  rfl

/-- The described columns are read, each declared plainly. -/
theorem DescribesColumns.read_eq {described : List Column}
    (describes : DescribesColumns rows described) (name : TableName) :
    (columns name).read rows = .ok (described.map Column.plain) := by
  have each : ∃ found, List.Forall₂ (fun row result => column? row = .ok result) rows found ∧
      found.filterMap id = described.map Column.plain := by
    induction describes with
    | nil => exact ⟨[], .nil, rfl⟩
    | @column row column rows columns kind here _ ih =>
        obtain ⟨word, cell, upper⟩ := kind
        obtain ⟨found, there, whole⟩ := ih
        have present : word ≠ "" := by
          rintro rfl
          revert upper
          decide
        have counts : describesColumn row = .ok true := by
          rw [describesColumn_eq cell present, decide_eq_true upper]
        have read : column? row = .ok (some column.plain) :=
          column?_eq_some_iff.mpr ⟨counts, here.column_eq⟩
        exact ⟨some column.plain :: found, .cons read there, by simpa using whole⟩
    | @other row rows columns kind _ ih =>
        obtain ⟨word, cell, present, upper⟩ := kind
        obtain ⟨found, there, whole⟩ := ih
        have counts : describesColumn row = .ok false := by
          rw [describesColumn_eq cell present, decide_eq_false upper]
        have read : column? row = .ok none :=
          bind_eq_ok_iff.mpr ⟨false, lift_cell_eq_ok_iff.mpr counts, rfl⟩
        exact ⟨none :: found, .cons read there, by simpa using whole⟩
  obtain ⟨found, read, whole⟩ := each
  exact bind_eq_ok_iff.mpr ⟨found, mapM_eq_ok_iff.mpr read, pure_eq_ok_iff.mpr whole⟩

/-! ## Keys -/

/-- The rows, in some order, name the keys with their numbers, which begin at one. -/
def NumbersKeys (rows : List Row) (keys : List Value) : Prop :=
  ∃ ordered, rows.Perm ordered ∧ List.Forall₂ (fun row numbered =>
    row.cell "column_name" = .ok numbered.1 ∧
      row.integer? "key_sequence" = .ok (some (numbered.2 : Int))) ordered (keys.zipIdx 1)

/-- The number of a row, zero where there is none. -/
def sequenceOf (row : Row) : Int :=
  match row.integer? "key_sequence" with
  | .ok (some number) => number
  | _ => 0

theorem sequenceOf_eq {number : Int} (cell : row.integer? "key_sequence" = .ok (some number)) :
    sequenceOf row = number := by
  rw [sequenceOf, cell]

/-- Rows that all have numbers are sorted by them. -/
theorem sortedBySequence_numbered (number : Row → Int) (rows : List Row) :
    sortedBySequence (rows.map fun row => (some (number row), row)) =
      .ok (rows.mergeSort fun first second => number first ≤ number second) := by
  match rows with
  | [] | [_] => simp [sortedBySequence, bind, Except.bind, pure, Except.pure]
  | first :: second :: rest =>
      apply bind_eq_ok_iff.mpr
      refine ⟨(first :: second :: rest).map fun row => (number row, row), ?_, ?_⟩
      · rw [mapM_eq_ok_iff, List.forall₂_map_left_iff, List.forall₂_map_right_iff]
        exact List.forall₂_same.mpr fun _ _ => rfl
      · have sorted := List.map_mergeSort (f := fun row => (number row, row))
          (s := fun first second => first.1 ≤ second.1) (l := first :: second :: rest)
          fun _ _ _ _ => rfl
        rw [← sorted, List.map_map, pure_eq_ok_iff]
        exact List.map_id _

/-- Items in the order of different numbers are what sorting them by these numbers yields. -/
theorem mergeSort_eq_of_perm {α : Type} {number : α → Int} {items ordered : List α}
    (same : items.Perm ordered) (increasing : (ordered.map number).Pairwise (· < ·)) :
    (items.mergeSort fun first second => number first ≤ number second) = ordered := by
  have distinct : (ordered.map number).Nodup := increasing.imp fun less => Int.ne_of_lt less
  have sorted := List.mergeSort_perm items fun first second => number first ≤ number second
  have ascending : ordered.Pairwise fun first second => number first ≤ number second :=
    (List.pairwise_map.mp increasing).imp Int.le_of_lt
  refine List.Perm.eq_of_pairwise ?_
    (List.pairwise_mergeSort' (fun first second => number first ≤ number second) items)
    ascending (sorted.trans same)
  intro first second found present below above
  have there : first ∈ ordered := (sorted.trans same).mem_iff.mp found
  exact List.inj_on_of_nodup_map distinct there present (Int.le_antisymm below above)

/-- Where all rows have numbers, the keys are read from the rows in the order of the numbers. -/
theorem keys_read_eq {found : List Value}
    (told : ∀ row ∈ rows, row.integer? "key_sequence" = .ok (some (sequenceOf row)))
    (names : List.Forall₂ (fun row key => row.cell "column_name" = .ok key)
      (rows.mergeSort fun first second => sequenceOf first ≤ sequenceOf second) found)
    (name : TableName) : (keys name).read rows = .ok found := by
  simp only [keys, bind_eq_ok_iff, lift_cell_eq_ok_iff, mapM_eq_ok_iff]
  refine ⟨rows.map fun row => (some (sequenceOf row), row), ?_, _,
    sortedBySequence_numbered sequenceOf rows, names⟩
  rw [List.forall₂_map_right_iff, List.forall₂_same]
  exact fun row member => ⟨_, told row member, rfl⟩

/-- Numbered keys are read in the order of their numbers. -/
theorem NumbersKeys.read_eq {found : List Value} (numbers : NumbersKeys rows found)
    (name : TableName) : (keys name).read rows = .ok found := by
  obtain ⟨ordered, same, each⟩ := numbers
  have told : ∀ row ∈ ordered, row.integer? "key_sequence" = .ok (some (sequenceOf row)) := by
    have both := each.imp fun _ _ told => And.intro (sequenceOf_eq told.2 ▸ told.2) told
    exact ((List.forall₂_and_left _ _).mp both).1
  have increasing : (ordered.map sequenceOf).Pairwise (· < ·) := by
    have numbered : ordered.map sequenceOf = (found.zipIdx 1).map fun key => (key.2 : Int) := by
      rw [← List.forall₂_eq_eq_eq, List.forall₂_map_left_iff, List.forall₂_map_right_iff]
      exact each.imp fun _ _ told => sequenceOf_eq told.2
    have counted : ((found.zipIdx 1).map Prod.snd).Pairwise (· < ·) := by
      rw [List.zipIdx_map_snd]
      exact List.pairwise_lt_range' 1
    rw [numbered, List.pairwise_map]
    exact (List.pairwise_map.mp counted).imp Int.ofNat_lt.mpr
  refine keys_read_eq (fun row member => told row (same.mem_iff.mp member)) ?_ name
  rw [mergeSort_eq_of_perm same increasing, ← List.zipIdx_map_fst 1 found,
    List.forall₂_map_right_iff]
  exact each.imp fun _ _ told => told.1

/-! ## Tables -/

/-- What Snowflake reports about a table: the tables that are shown, what is described, the
keys, and the tables that are shown when it is asked again. -/
structure Report extends Description where
  again : List Row

namespace Report

/-- The commands about the table, each with its answer. -/
def exchange (report : Report) (name : TableName) : Exchange :=
  report.toDescription.exchange .snowflake (lookup name) (columns name) (keys name) ++
    [((temporary name).sql.text .snowflake, report.again)]

/-- The answers describe the table. -/
structure Describes (report : Report) (definition : TableDefinition) : Prop where
  found : Shows report.found definition
  columns : DescribesColumns report.columns definition.columns.toList
  keys : NumbersKeys report.keys definition.primaryKeys
  again : Shows report.again definition
  storage : definition.storage = none

theorem Describes.reaches_definition {report : Report} (describes : report.Describes definition) :
    (Catalog.definition .snowflake definition.name).Reaches (report.exchange definition.name)
      definition.plain := by
  obtain ⟨object, found⟩ := describes.found.lookup_eq
  have stored : (storageOf .snowflake definition.name object).Reaches [] definition.storage := by
    rw [describes.storage]
    exact .done _
  exact reaches_definition_of_parts (reaches_askFound .snowflake found)
    (reaches_columnsOf .snowflake rfl (describes.columns.read_eq definition.name))
    (reaches_keysOf .snowflake rfl (describes.keys.read_eq definition.name))
    (reaches_askFound .snowflake describes.again.temporary_eq) stored

end Report

/-- **Whatever table Snowflake reports, reading it over a connection that answers with the
report yields the table.** -/
theorem definition_of_reports {σ : Type} {definition : TableDefinition} {report : Report}
    (describes : report.Describes definition) {connection : Connection σ} {state : σ}
    (answers : connection.Answers state (report.exchange definition.name)) :
    ∃ read, ((Catalog.definition .snowflake definition.name).run connection state).outcome =
        .ok read ∧ read.sameAs definition = true :=
  exists_read_of_reaches describes.reaches_definition answers

/-- A temporary table of two columns, shown beside another of a similar name and with keys
that are reported out of order, is read from its reports. -/
theorem definition_of_reports_orders :
    let number : Definition := {
      dialect := .snowflake, type := "NUMBER", length := some ⟨"38,0", by decide⟩
      nullable := false, default := none, characterSet := none
      type_mem := by decide, characterSet_isSome := by decide }
    let price : Definition := {
      dialect := .snowflake, type := "DOUBLE PRECISION", length := none
      nullable := true, default := some "0", characterSet := none
      type_mem := by decide, characterSet_isSome := by decide }
    let orders : TableDefinition := {
      name := ⟨"SHOP", "ORDER_S"⟩, temporary := true
      columns := ⟨[⟨.plain, .text "NR", number, by decide⟩,
        ⟨.plain, .text "PRICE", price, by decide⟩], by decide, by decide⟩
      primaryKeys := [.text "PRICE", .text "NR"], storage := none
      keys_present := by decide, storage_present := by simp }
    let similar : Row := [("name", .text "ORDERXS"), ("kind", .text "TABLE")]
    let shown : Row := [("database_name", .text "DB"), ("schema_name", .text "SHOP"),
      ("name", .text "ORDER_S"), ("kind", .text "Temporary")]
    let numberRow : Row := [("name", .text "NR"), ("type", .text "number(38,0)"),
      ("kind", .text "COLUMN"), ("null?", .text "N"), ("default", .null)]
    let priceRow : Row := [("name", .text "PRICE"), ("type", .text "Double Precision"),
      ("kind", .text "COLUMN"), ("null?", .text "Y"), ("default", .number 0)]
    let firstKey : Row := [("column_name", .text "PRICE"), ("key_sequence", .number 1)]
    let secondKey : Row := [("column_name", .text "NR"), ("key_sequence", .text " 2")]
    let answers : List (List Row) := [[similar, shown],
      [numberRow, [("kind", .text "STAGE")], priceRow], [secondKey, firstKey], [similar, shown]]
    ∃ read, ((Catalog.definition .snowflake orders.name).run Connection.prepared answers).outcome =
        .ok read ∧ read.sameAs orders = true := by
  intro number price orders similar shown numberRow priceRow firstKey secondKey answers
  let report : Report :=
    ⟨⟨[similar, shown], [numberRow, [("kind", .text "STAGE")], priceRow], [secondKey, firstKey]⟩,
      [similar, shown]⟩
  have table : ShowsTable shown orders := {
    name := by decide
    database := ⟨"DB", by decide⟩
    schema := ⟨"SHOP", by decide⟩
    kind := ⟨some "Temporary", by decide, by decide⟩ }
  have shows : Shows [similar, shown] orders := {
    named := List.forall_mem_cons.mpr ⟨⟨.text "ORDERXS", by decide⟩,
      List.forall_mem_singleton.mpr ⟨_, table.name⟩⟩
    distinct := by decide
    shown := ⟨shown, by simp, table⟩ }
  have numberDescribed : DescribesColumn numberRow ⟨.plain, .text "NR", number, by decide⟩ := {
    dialect := rfl
    name := by decide
    type := by
      refine ⟨"number(38,0)", "NUMBER(38,0)", by decide, ?_, ?_⟩
      · exact @Writes.sized "NUMBER" ⟨"38,0", _⟩ (by decide) (by decide)
      · exact Text.Spells.word "number(38,0)".toList (by decide) .nil
    nullable := by decide
    default := ⟨.null, by decide, rfl⟩ }
  have priceDescribed : DescribesColumn priceRow ⟨.plain, .text "PRICE", price, by decide⟩ := {
    dialect := rfl
    name := by decide
    type := by
      refine ⟨"Double Precision", "DOUBLE PRECISION", by decide, .bare, ?_⟩
      apply Text.Spells.word "Double".toList (by decide)
      apply Text.Spells.blanks " ".toList (by decide) (by decide)
      exact Text.Spells.word "Precision".toList (by decide) .nil
    nullable := by decide
    default := ⟨.number 0, by decide, by decide⟩ }
  have keys : NumbersKeys [secondKey, firstKey] [.text "PRICE", .text "NR"] :=
    ⟨[firstKey, secondKey], .swap _ _ _, .cons ⟨by decide, by decide⟩
      (.cons ⟨by decide, by decide⟩ .nil)⟩
  have describes : report.Describes orders := {
    found := shows
    columns := .column ⟨"COLUMN", by decide, by decide⟩ numberDescribed
      (.other ⟨"STAGE", by decide, by decide, by decide⟩
        (.column ⟨"COLUMN", by decide, by decide⟩ priceDescribed .nil))
    keys := keys
    again := shows
    storage := rfl }
  exact definition_of_reports describes ⟨_, rfl, _, rfl, _, rfl, _, rfl, trivial⟩

end Warehouse.Catalog.Snowflake
