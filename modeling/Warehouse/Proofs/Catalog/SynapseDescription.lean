import Warehouse.Proofs.Catalog.ColumnRow
import Warehouse.Proofs.Catalog.Description
import Warehouse.Proofs.Datatype.Acceptance
import Warehouse.Proofs.Text.DecimalNumeral
import Warehouse.Proofs.Text.Parenthesis

/-! # Reading a described Synapse table

The `sys` views describe a table by rows: bytes for characters, minus one for no bound,
scales that may be the standard one, defaults in parentheses, words in any letter case.
Numbers may be given by their numerals (`Value.integer?_of_numeral`), but a length has to be
short enough to have one. Reading any such description of a table yields the table
(`Synapse.definition_of_described`). -/

namespace Warehouse.Catalog.Synapse

open Warehouse.Computation

/-! ## Columns -/

/-- The cells of a row tell the length that goes with a type. -/
inductive DescribesLength (row : Row) : String → Option Length → Prop where
  | unbounded {type : String} {length : Length}
      (sized : type ∈ ["CHAR", "VARCHAR", "BINARY", "VARBINARY", "NCHAR", "NVARCHAR"])
      (word : length.text = "MAX") (cell : row.integer? "max_length" = .ok (some (-1))) :
      DescribesLength row type (some length)
  | bytes {type : String} {length : Length} {size : Nat}
      (sized : type ∈ ["CHAR", "VARCHAR", "BINARY", "VARBINARY"])
      (numeral : Text.ofInteger? size = some length.text)
      (cell : row.integer? "max_length" = .ok (some (size : Int))) :
      DescribesLength row type (some length)
  | characters {type : String} {length : Length} {size : Nat}
      (sized : type ∈ ["NCHAR", "NVARCHAR"]) (numeral : Text.ofInteger? size = some length.text)
      (cell : row.integer? "max_length" = .ok (some (2 * size : Int))) :
      DescribesLength row type (some length)
  | exact {type first second : String} {length : Length} {precision scale : Nat}
      (scaled : type ∈ ["DECIMAL", "NUMERIC"]) (digits : Text.ofInteger? precision = some first)
      (decimals : Text.ofInteger? scale = some second)
      (numerals : length.text = first ++ "," ++ second)
      (total : row.integer? "precision" = .ok (some (precision : Int)))
      (fraction : row.integer? "scale" = .ok (some (scale : Int))) :
      DescribesLength row type (some length)
  | fraction {type : String} {length : Length} {scale : Nat}
      (timed : type ∈ ["DATETIME2", "TIME", "DATETIMEOFFSET"]) (special : scale ≠ 7)
      (numeral : Text.ofInteger? scale = some length.text)
      (cell : row.integer? "scale" = .ok (some (scale : Int))) :
      DescribesLength row type (some length)
  | standardFraction {type : String} (timed : type ∈ ["DATETIME2", "TIME", "DATETIMEOFFSET"])
      (cell : row.integer? "scale" = .ok (some 7)) : DescribesLength row type none
  | without {type : String}
      (fixed : type ∉ ["CHAR", "VARCHAR", "BINARY", "VARBINARY", "NCHAR", "NVARCHAR", "DECIMAL",
        "NUMERIC", "DATETIME2", "TIME", "DATETIMEOFFSET"]) : DescribesLength row type none

/-- The cell tells a default: null for none, and for a balanced expression that is not
itself in parentheses, this expression in any number of pairs of parentheses. -/
def DescribesDefault (cell : Value) : Option String → Prop
  | none => cell = .null
  | some expression =>
      Text.Balanced expression.toList ∧ ¬ Text.Enclosed expression.toList ∧
        ∃ pairs, cell = .text (String.ofList (Text.enclosed pairs expression.toList))

/-- The word differs from a word in capitals by the case of its ASCII letters only. -/
def IsCaseOf (written word : String) : Prop := written.toList.map Char.toUpper = word.toList

instance (written word : String) : Decidable (IsCaseOf written word) :=
  inferInstanceAs (Decidable (_ = _))

/-- The row describes the column. -/
structure DescribesColumn (row : Row) (column : Column) : Prop where
  dialect : column.dialect = .synapse
  name : ∃ text, column.name = .text text ∧ row.text? "column_name" = .ok (some text)
  type : ∃ written, row.text "type_name" = .ok written ∧ IsCaseOf written column.definition.type
  length : DescribesLength row column.definition.type column.definition.length
  nullable : row.flag "is_nullable" = .ok column.definition.nullable
  default : ∃ cell, row.cell "default_value" = .ok cell ∧
    DescribesDefault cell column.definition.default

/-- The length that a row tells is read. -/
theorem DescribesLength.length_eq {row : Row} {type : String} {told : Option Length}
    (describes : DescribesLength row type told) :
    length type row = .ok (told.map Length.text) := by
  cases describes with
  | unbounded sized word cell =>
      simp only [List.mem_cons, List.not_mem_nil, or_false] at sized
      rcases sized with rfl | rfl | rfl | rfl | rfl | rfl <;> simp [length, cell, word] <;> rfl
  | @bytes _ size sized numeral cell =>
      have bounded : some (size : Int) ≠ some (-1) := by simp
      have written := Value.asText_number_eq_ok_iff.mpr numeral
      simp only [List.mem_cons, List.not_mem_nil, or_false] at sized
      rcases sized with rfl | rfl | rfl | rfl <;>
        simp [length, cell, bind, Except.bind, bounded, Value.ofNumber?, written] <;> rfl
  | @characters _ size sized numeral cell =>
      have bounded : some (2 * size : Int) ≠ some (-1) := by simp; omega
      have written := Value.asText_number_eq_ok_iff.mpr numeral
      simp only [List.mem_cons, List.not_mem_nil, or_false] at sized
      rcases sized with rfl | rfl <;>
        simp [length, cell, bind, Except.bind, bounded, halved_double, written] <;> rfl
  | exact scaled digits decimals numerals total fraction =>
      have whole := numeral_of_integer? total digits
      have places := numeral_of_integer? fraction decimals
      simp only [List.mem_cons, List.not_mem_nil, or_false] at scaled
      rcases scaled with rfl | rfl <;> simp [length, whole, places, numerals] <;> rfl
  | @fraction _ scale timed special numeral cell =>
      have other : (scale : Int) ≠ 7 := by omega
      have written := Value.asText_number_eq_ok_iff.mpr numeral
      simp only [List.mem_cons, List.not_mem_nil, or_false] at timed
      rcases timed with rfl | rfl | rfl <;>
        simp [length, cell, bind, Except.bind, other, written] <;> rfl
  | standardFraction timed cell =>
      simp only [List.mem_cons, List.not_mem_nil, or_false] at timed
      rcases timed with rfl | rfl | rfl <;> simp [length, cell] <;> rfl
  | without fixed =>
      simp only [List.mem_cons, List.not_mem_nil, or_false, not_or] at fixed
      simp [length, fixed]
      rfl

/-- A default that a cell tells is read. -/
theorem DescribesDefault.default_eq {cell : Value} {default : Option String}
    (describes : DescribesDefault cell default) :
    ∃ expression, cell.text? = .ok expression ∧
      expression.map Text.withoutEnclosing = default := by
  cases default with
  | none =>
      rw [describes]
      exact ⟨none, rfl, rfl⟩
  | some expression =>
      obtain ⟨balanced, bare, pairs, rfl⟩ := describes
      refine ⟨_, rfl, ?_⟩
      simp [Text.withoutEnclosing, Text.stripParentheses_enclosed balanced bare]

/-- A column that a row describes is read, declared plainly. -/
theorem DescribesColumn.column_eq {row : Row} {described : Column}
    (describes : DescribesColumn row described) : column row = .ok described.plain := by
  obtain ⟨own, ⟨text, named, nameCell⟩, ⟨written, typeCell, cased⟩, lengthCells, nullCell,
    cell, defaultCell, told⟩ := describes
  have known := type_mem_of_dialect own
  have upper : Text.upper written = described.definition.type :=
    Text.upper_eq_of_map_toUpper cased
      (Text.isAscii_of_isNormal (Dialect.isNormal_of_mem_typeNames known))
  obtain ⟨expression, defaultText, default⟩ := told.default_eq
  have made := make_of_dialect own (by decide)
  rw [← default] at made
  have measured := lengthCells.length_eq
  rw [← upper] at made measured
  simp only [column, bind_eq_ok_iff, lift_cell_eq_ok_iff, lift_type_eq_ok_iff]
  exact ⟨written, typeCell, cell, defaultCell, some text, nameCell, _, measured, _, nullCell,
    expression, defaultText, _, made, Column.ofName_eq_ok_iff.mpr ⟨rfl, named, rfl⟩⟩

/-! ## Keys and storage -/

/-- The rows name the keys in their order. -/
def DescribesKeys (rows : List Row) (keys : List Value) : Prop :=
  List.Forall₂ (fun row key => ∃ text, key = .text text ∧
    row.text? "column_name" = .ok (some text)) rows keys

/-- The rows name the columns in their order; rows may stand between them that name none. -/
def NamesColumns (rows : List Row) (columns : List String) : Prop :=
  ∃ cells, List.Forall₂ (fun row cell => row.text? "column_name" = .ok cell) rows cells ∧
    cells.filterMap id = columns

/-- The rows describe a distribution: its name in the first of them and, for a distribution
by hash, the column. The standard one may also be described by no rows. -/
inductive DescribesDistribution : List Row → Distribution → Prop where
  | standard : DescribesDistribution [] .roundRobin
  | named {first : Row} {others : List Row} {distribution : Distribution} {written : String}
      {columns : List String} (word : first.text "distribution_name" = .ok written)
      (cased : IsCaseOf written distribution.name)
      (named : NamesColumns (first :: others) columns)
      (hashed : distribution.isHash = true → columns = distribution.columns) :
      DescribesDistribution (first :: others) distribution

/-- The word of the catalog for an index. -/
def catalogWord : Index → String
  | .heap => "HEAP"
  | .clusteredColumnstore => "CLUSTERED COLUMNSTORE"
  | .clustered _ _ => "CLUSTERED"

/-- The rows describe an index: the word for it in the first of them and, for a clustered
one, the columns. The standard one may also be described by no rows. -/
inductive DescribesIndex : List Row → Index → Prop where
  | standard : DescribesIndex [] .heap
  | named {first : Row} {others : List Row} {index : Index} {written : String}
      (word : first.text "index_type" = .ok written) (cased : IsCaseOf written (catalogWord index))
      (clustered : index.columns ≠ [] → NamesColumns (first :: others) index.columns) :
      DescribesIndex (first :: others) index

theorem DescribesKeys.namesUnder_eq {rows : List Row} {keys : List Value}
    (describes : DescribesKeys rows keys) : namesUnder "column_name" rows = .ok keys :=
  RowsName.namesUnder_eq describes

theorem NamesColumns.namedColumns_eq {rows : List Row} {columns : List String}
    (names : NamesColumns rows columns) : namedColumns rows = .ok columns := by
  obtain ⟨cells, each, rfl⟩ := names
  rw [namedColumns, mapM_eq_ok_iff.mpr each]
  rfl

theorem DescribesDistribution.readDistribution_eq {rows : List Row} {distribution : Distribution}
    (describes : DescribesDistribution rows distribution) :
    readDistribution rows = .ok distribution := by
  cases describes with
  | standard => rfl
  | @named first others _ written columns word cased names hashed =>
      have ascii : Text.isAscii distribution.name = true := by
        cases distribution <;> simp only [Distribution.name] <;> decide
      have upper := Text.upper_eq_of_map_toUpper cased ascii
      have counted : (if distribution.name = "HASH" then columns else []) =
          distribution.columns := by
        cases distribution with
        | hash column => exact hashed rfl
        | roundRobin | replicate => rfl
      simp only [readDistribution, bind_eq_ok_iff, lift_cell_eq_ok_iff, lift_table_eq_ok_iff]
      refine ⟨written, word, columns, names.namedColumns_eq, ?_⟩
      rw [upper, counted, Distribution.make_name]

theorem DescribesIndex.readIndex_eq {rows : List Row} {index : Index}
    (describes : DescribesIndex rows index) (name : TableName) :
    readIndex name rows = .ok index := by
  cases describes with
  | standard => rfl
  | @named first others _ written word cased clustered =>
      have ascii : Text.isAscii (catalogWord index) = true := by
        cases index <;> simp only [catalogWord] <;> decide
      have upper := Text.upper_eq_of_map_toUpper cased ascii
      have known : indexTypes.lookup (catalogWord index) = some index.type := by
        cases index <;> rfl
      simp only [readIndex, bind_eq_ok_iff, lift_cell_eq_ok_iff]
      refine ⟨written, word, ?_⟩
      rw [upper, known]
      cases index with
      | heap | clusteredColumnstore =>
          exact bind_eq_ok_iff.mpr ⟨[], rfl, lift_table_eq_ok_iff.mpr (Index.make_type _)⟩
      | clustered columns present =>
          exact bind_eq_ok_iff.mpr ⟨columns, lift_cell_eq_ok_iff.mpr
            (clustered present).namedColumns_eq, lift_table_eq_ok_iff.mpr (Index.make_type _)⟩

/-! ## Tables -/

/-- The text of a statement, if there is one. -/
def statementOf {α : Type} : Except CellFault (Query α) → String
  | .ok query => query.sql.text .synapse
  | .error _ => ""

/-- What the catalog answers about a table: its number, and the rows that are found under
the queries. -/
structure Description where
  number : String
  found : List Row
  columns : List Row
  keys : List Row
  distribution : List Row
  index : List Row

namespace Description

/-- The queries about the table, each with its answer. -/
def exchange (description : Description) (name : TableName) : Exchange := [
  ((lookup name).sql.text .synapse, description.found),
  (statementOf (Synapse.columns name description.number), description.columns),
  (statementOf (Synapse.keys name description.number), description.keys),
  (statementOf (Synapse.distribution name description.number), description.distribution),
  (statementOf (Synapse.index name description.number), description.index)]

/-- The answers describe the table. -/
structure Describes (description : Description) (definition : TableDefinition) : Prop where
  found : ∃ first others, description.found = first :: others ∧
    first.text? "object_id" = .ok (some description.number)
  number : ∃ number, Text.integer? description.number = some number
  temporary : definition.temporary = hasSessionMark definition.name.table
  columns : List.Forall₂ DescribesColumn description.columns definition.columns.toList
  keys : DescribesKeys description.keys definition.primaryKeys
  storage : ∃ storage, definition.storage = some storage ∧
    DescribesDistribution description.distribution storage.distribution ∧
    DescribesIndex description.index storage.index

variable {description : Description} {definition : TableDefinition}

theorem Describes.reaches_objectId (describes : description.Describes definition) :
    (objectId .synapse definition.name).Reaches
      [((lookup definition.name).sql.text .synapse, description.found)]
      (some description.number) := by
  obtain ⟨first, others, found, cell⟩ := describes.found
  have present : description.number ≠ "" := by
    obtain ⟨number, read⟩ := describes.number
    intro empty
    rw [empty] at read
    cases read
  have read : (lookup definition.name).read description.found =
      .ok (some (some description.number)) := by
    simp only [found, lookup, bind_eq_ok_iff, lift_cell_eq_ok_iff]
    exact ⟨some description.number, cell, by simp [present, pure, Except.pure]⟩
  exact reaches_askFound .synapse read

/-- A query about the number of a described table is one exchange. -/
theorem Describes.reaches_numbered {α : Type} (describes : description.Describes definition)
    {sql : String → Sql} {read : List Row → Except Failure α} {rows : List Row} {result : α}
    (success : read rows = .ok result) :
    let query : Except CellFault (Query α) := do
      let number ← objectNumber description.number
      return { sql := sql number, read := read }
    (do askTable .synapse definition.name (← query) : Dialogue α).Reaches
      [(statementOf query, rows)] result := by
  obtain ⟨number, integer⟩ := describes.number
  have shown : objectNumber description.number = .ok (toString number) := by
    simp [objectNumber, integer]
  intro query
  have asked : query = .ok { sql := sql (toString number), read := read } := by
    simp only [query, shown]
    rfl
  rw [asked]
  exact (Dialogue.reaches_lift_cell rfl).bind (reaches_askTable success)

theorem Describes.reaches_columnsOf (describes : description.Describes definition) :
    (columnsOf .synapse definition.name (some description.number)).Reaches
      [(statementOf (Synapse.columns definition.name description.number), description.columns)]
      (definition.columns.toList.map Column.plain) := by
  refine describes.reaches_numbered ?_
  rw [mapM_eq_ok_iff, List.forall₂_map_right_iff]
  exact describes.columns.imp fun _ _ => DescribesColumn.column_eq

theorem Describes.reaches_keysOf (describes : description.Describes definition) :
    (keysOf .synapse definition.name (some description.number)).Reaches
      [(statementOf (Synapse.keys definition.name description.number), description.keys)]
      definition.primaryKeys :=
  describes.reaches_numbered (lift_cell_eq_ok_iff.mpr describes.keys.namesUnder_eq)

theorem Describes.reaches_storageOf (describes : description.Describes definition) :
    (storageOf .synapse definition.name (some description.number)).Reaches
      [(statementOf (Synapse.distribution definition.name description.number),
          description.distribution),
        (statementOf (Synapse.index definition.name description.number), description.index)]
      definition.storage := by
  obtain ⟨storage, given, distributed, indexed⟩ := describes.storage
  rw [given]
  exact (describes.reaches_numbered distributed.readDistribution_eq).bind
    ((describes.reaches_numbered (indexed.readIndex_eq definition.name)).bind (.done _))

theorem Describes.reaches_definition (describes : description.Describes definition) :
    (Catalog.definition .synapse definition.name).Reaches
      (description.exchange definition.name) definition.plain := by
  have temporary : (isTemporary .synapse definition.name).Reaches [] definition.temporary := by
    rw [describes.temporary]
    exact .done _
  exact reaches_definition_of_parts describes.reaches_objectId describes.reaches_columnsOf
    describes.reaches_keysOf temporary describes.reaches_storageOf

end Description

/-- **Whatever table a Synapse catalog describes, by numbers that are short enough to be written,
reading it over a connection that answers with the description yields the table.** -/
theorem definition_of_described {σ : Type} {definition : TableDefinition}
    {description : Description} (describes : description.Describes definition)
    {connection : Connection σ} {state : σ}
    (answers : connection.Answers state (description.exchange definition.name)) :
    ∃ read, ((Catalog.definition .synapse definition.name).run connection state).outcome =
        .ok read ∧ read.sameAs definition = true :=
  exists_read_of_reaches describes.reaches_definition answers

/-- A table of one column, whose length is told in bytes and whose default stands in two
pairs of parentheses, is read from its description. -/
theorem definition_of_described_note :
    let note : Definition := {
      dialect := .synapse, type := "NVARCHAR", length := some ⟨"10", by decide⟩
      nullable := false, default := some "N'-'", characterSet := none
      type_mem := by decide, characterSet_isSome := by decide }
    let notes : TableDefinition := {
      name := ⟨"dbo", "notes"⟩, temporary := false
      columns := ⟨[⟨.plain, .text "note", note, by decide⟩], by decide, by decide⟩
      primaryKeys := [.text "note"], storage := some ⟨.hash "note", .heap⟩
      keys_present := by decide, storage_present := by decide }
    let answers : List (List Row) := [
      [[("object_id", .number 7)]],
      [[("column_name", .text "note"), ("type_name", .text "nVarChar"),
        ("max_length", .text "20"), ("is_nullable", .text "N"),
        ("default_value", .text "((N'-'))")]],
      [[("column_name", .text "note")]],
      [[("distribution_name", .text "Hash"), ("column_name", .text "note")]],
      []]
    ∃ read, ((Catalog.definition .synapse notes.name).run Connection.prepared answers).outcome =
        .ok read ∧ read.sameAs notes = true := by
  intro note notes answers
  let description : Description := ⟨"7", answers[0], answers[1], answers[2], answers[3], answers[4]⟩
  have bare : ¬ Text.Enclosed "N'-'".toList := mt Text.isEnclosed_iff.mpr (by decide)
  have describes : description.Describes notes := {
    found := ⟨_, _, rfl, rfl⟩
    number := ⟨7, by decide⟩
    temporary := by decide
    columns := .cons {
      dialect := rfl
      name := ⟨"note", rfl, rfl⟩
      type := ⟨"nVarChar", rfl, by decide⟩
      length := @DescribesLength.characters _ _ _ 10 (by decide) (by decide) rfl
      nullable := rfl
      default := ⟨_, rfl, Text.balanced_iff.mpr (by decide),
        bare, 2, by decide⟩ } .nil
    keys := .cons ⟨"note", rfl, rfl⟩ .nil
    storage := ⟨_, rfl, .named rfl (by decide) ⟨[some "note"], .cons rfl .nil, rfl⟩
      fun _ => rfl, .standard⟩ }
  exact definition_of_described describes ⟨_, rfl, _, rfl, _, rfl, _, rfl, _, rfl, trivial⟩

/-- A column of bytes is not read if their number is too large for a numeral, however the
number is told. -/
theorem column_eq_error_of_overlong {row : Row} {written : String} {default : Value}
    {name : Option String} {size : Int} (typeCell : row.text "type_name" = .ok written)
    (sized : Text.upper written ∈ ["CHAR", "VARCHAR", "BINARY", "VARBINARY"])
    (defaultCell : row.cell "default_value" = .ok default)
    (nameCell : row.text? "column_name" = .ok name)
    (sizeCell : row.integer? "max_length" = .ok (some size)) (overlong : Text.leastOverlong ≤ size) :
    column row = .error (.cell .overlongNumber) := by
  have bounded : some size ≠ some (-1) := by
    have positive := Text.leastOverlong_pos
    simp only [ne_eq, Option.some.injEq]
    omega
  have unwritten : (Value.number size).asText = .error .overlongNumber :=
    Value.asText_number_eq_error (by omega)
  have measured : length (Text.upper written) row = .error .overlongNumber := by
    rw [length, if_pos (List.contains_iff_mem.mpr sized), sizeCell]
    simp [bind, Except.bind, bounded, Value.ofNumber?, unwritten]
  apply bind_eq_error_of_ok (lift_cell_eq_ok_iff.mpr typeCell)
  apply bind_eq_error_of_ok (lift_cell_eq_ok_iff.mpr defaultCell)
  apply bind_eq_error_of_ok (lift_cell_eq_ok_iff.mpr nameCell)
  exact bind_eq_error (lift_cell_eq_error measured) _

/-- A column of as many bytes as no numeral can be written for is not read, even if its
length is told by the digits that a column type may have for one. -/
theorem definition_of_overlong :
    let digits := toString Text.leastOverlong
    let row : Row := [("column_name", .text "note"), ("type_name", .text "varchar"),
      ("max_length", .text digits), ("is_nullable", .flag true), ("default_value", .null)]
    let answers : List (List Row) := [[[("object_id", .number 7)]], [row]]
    (∃ described, Definition.make .synapse { type := "VARCHAR", length := .text digits } =
        .ok described ∧ described.length.map Length.text = some digits) ∧
      row.integer? "max_length" = .ok (some (Text.leastOverlong : Int)) ∧
      ((Catalog.definition .synapse ⟨"dbo", "notes"⟩).run Connection.prepared answers).outcome =
        .error (.cell .overlongNumber) := by
  -- only what is read in the digits matters; they are not to be computed
  have numeral := @Definition.exists_make_of_numeral .synapse "VARCHAR" (by decide)
    Text.leastOverlong
  have told := Value.integer?_leastOverlong
  generalize toString Text.leastOverlong = digits at numeral told
  intro _ row answers
  have sizeCell : row.integer? "max_length" = .ok (some (Text.leastOverlong : Int)) :=
    bind_eq_ok_iff.mpr ⟨.text digits, rfl, told⟩
  have typeCell : row.text "type_name" = .ok "varchar" :=
    bind_eq_ok_iff.mpr ⟨.text "varchar", rfl, by decide⟩
  have unread : column row = .error (.cell .overlongNumber) :=
    @column_eq_error_of_overlong _ _ .null (some "note") _ typeCell (by decide) rfl rfl
      sizeCell le_rfl
  have located : (lookup ⟨"dbo", "notes"⟩).read [[("object_id", .number 7)]] =
      .ok (some (some "7")) := by
    decide
  have numbered : objectNumber (some "7") = .ok "7" := by decide
  obtain ⟨query, asked⟩ : ∃ query,
      columnsQuery .synapse ⟨"dbo", "notes"⟩ (some "7") = .ok query :=
    ⟨_, bind_pure_eq_ok_iff.mpr ⟨"7", numbered, rfl⟩⟩
  have rows : query.read ([] ++ row :: []) = .error (.cell .overlongNumber) :=
    read_eq_error_of_first asked (by simp) (congrArg (Functor.map some) unread)
  refine ⟨numeral, sizeCell, ?_⟩
  exact @outcome_definition_of_unread .synapse ⟨"dbo", "notes"⟩ (some "7") _ _ _ _ _ located asked
    rows _ _ ⟨_, rfl, _, rfl, trivial⟩

end Warehouse.Catalog.Synapse
