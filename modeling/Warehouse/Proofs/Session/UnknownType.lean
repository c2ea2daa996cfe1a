import Warehouse.Proofs.Catalog.ColumnRow
import Warehouse.Proofs.Catalog.SynapseDescription
import Warehouse.Session.Step

/-! # Unknown types in a catalog

A column of a type that the dialect does not know ends every question about the columns of a
table, and no further statement is sent (`Session.unknownType_of_told`). The failure has the
same code in all dialects. In Teradata it is a failure of the catalog, since the reader looks up
the code of the type; in the other dialects it is the failure of the column type that could not
be made. -/

namespace Warehouse

open Warehouse.Computation

namespace Catalog

/-! ## Rows with an unknown type -/

/-- The type that the row tells: in Teradata a code, else a name without what stands behind
it. -/
def toldType (dialect : Dialect) (row : Row) : Except CellFault String :=
  match dialect with
  | .synapse => Text.upper <$> row.text "type_name"
  | .teradata => row.text "ColumnType"
  | .exasol => do return (← Exasol.WrittenType.ofCell (← row.cell "COLUMN_TYPE")).type
  | .snowflake => do
      return String.ofList (Snowflake.splitType (Text.capitalWords (← row.text "type")).toList).1

/-- What a row tells stands for a type of the dialect. -/
def KnowsType (dialect : Dialect) (type : String) : Prop :=
  match dialect with
  | .teradata => type ∈ Teradata.typeCodes.map Prod.fst
  | _ => Text.capitalWords type ∈ dialect.typeNames

/-- The columns of a row whose texts are needed besides the type. -/
def shownCells : Dialect → List String
  | .synapse => ["column_name", "is_nullable", "default_value"]
  | .teradata => []
  | .exasol => ["COLUMN_NAME", "COLUMN_IS_NULLABLE", "COLUMN_DEFAULT"]
  | .snowflake => ["null?", "default"]

/-- The failure that an unknown type is reported with. -/
def unknownType (dialect : Dialect) (name : TableName) (type : String) : Failure :=
  match dialect with
  | .teradata => .catalog (.unknownColumnCode type name)
  | _ => .type (.unknownType type dialect)

/-- The row has all the cells of a column, those of which a text is needed without numbers of
too many digits, but tells a type that the dialect does not know. -/
structure TellsUnknownType (dialect : Dialect) (row : Row) (type : String) : Prop where
  present : ∀ key ∈ nullabilityCell dialect :: remainingCells dialect, (row.cell? key).isSome = true
  shown : ∀ key ∈ shownCells dialect, ((row.cell? key).any fun cell => cell.IsWritable) = true
  column : dialect = .snowflake → Snowflake.describesColumn row = .ok true
  told : toldType dialect row = .ok type
  unknown : ¬ KnowsType dialect type

variable {dialect : Dialect} {name : TableName} {row : Row} {type : String}

theorem TellsUnknownType.exists_cell (tells : TellsUnknownType dialect row type) (key : String)
    (listed : key ∈ nullabilityCell dialect :: remainingCells dialect) :
    ∃ cell, row.cell key = .ok cell :=
  Row.exists_cell (tells.present key listed)

theorem TellsUnknownType.exists_writable (tells : TellsUnknownType dialect row type) (key : String)
    (listed : key ∈ shownCells dialect) : ∃ cell, row.cell key = .ok cell ∧ cell.IsWritable := by
  obtain ⟨cell, found, writable⟩ := (Option.any_eq_true _ _).mp (tells.shown key listed)
  exact ⟨cell, by rw [Row.cell, found], of_decide_eq_true writable⟩

theorem Synapse.length_of_unknown
    (unknown : Text.capitalWords type ∉ Dialect.synapse.typeNames) :
    length type row = .ok none := by
  have measured : ∀ type ∈ ["CHAR", "VARCHAR", "BINARY", "VARBINARY", "NCHAR", "NVARCHAR",
      "DECIMAL", "NUMERIC", "DATETIME2", "TIME", "DATETIMEOFFSET"],
      Text.capitalWords type ∈ Dialect.synapse.typeNames := by decide
  exact (DescribesLength.without fun known => unknown (measured type known)).length_eq

theorem Synapse.column_of_unknown (tells : TellsUnknownType .synapse row type) :
    column row = .error (unknownType .synapse name type) := by
  have cells := tells.exists_writable
  obtain ⟨-, -, -, told, unknown⟩ := tells
  obtain ⟨written, typeCell, rfl⟩ := map_eq_ok_iff.mp told
  obtain ⟨default, defaultCell, expressed⟩ := cells "default_value" (by simp [shownCells])
  obtain ⟨given, nameCell, named⟩ := cells "column_name" (by simp [shownCells])
  obtain ⟨allowed, nullCell, flagged⟩ := cells "is_nullable" (by simp [shownCells])
  obtain ⟨name, nameText⟩ := Value.exists_trimmed?_of_isWritable named
  obtain ⟨nullable, flag⟩ := Value.exists_isTrue_of_isWritable flagged
  obtain ⟨expression, defaultText⟩ := Value.exists_text?_of_isWritable expressed
  apply bind_eq_error_of_ok (lift_cell_eq_ok_iff.mpr typeCell)
  apply bind_eq_error_of_ok (lift_cell_eq_ok_iff.mpr defaultCell)
  apply bind_eq_error_of_ok (lift_cell_eq_ok_iff.mpr ((Row.text?_of_cell nameCell).trans nameText))
  apply bind_eq_error_of_ok (lift_cell_eq_ok_iff.mpr (length_of_unknown unknown))
  apply bind_eq_error_of_ok (lift_cell_eq_ok_iff.mpr ((Row.flag_of_cell nullCell).trans flag))
  apply bind_eq_error_of_ok (lift_cell_eq_ok_iff.mpr defaultText)
  exact bind_eq_error (lift_type_eq_error (Definition.make_of_unknown unknown)) _

/-- A code that stands for no type is reported as a fault of the catalog, before any other cell
is read. -/
theorem Teradata.column_of_unknown (tells : TellsUnknownType .teradata row type) :
    column name row = .error (unknownType .teradata name type) := by
  obtain ⟨-, -, -, told, unknown⟩ := tells
  have missing : typeCodes.lookup type = none := by
    rw [List.lookup_eq_none_iff]
    intro pair member
    have other : type ≠ pair.1 := fun same => unknown (same ▸ List.mem_map_of_mem member)
    simpa using other
  have refused : typeOfCode name (some type) = .error (unknownType .teradata name type) := by
    simp only [typeOfCode, missing, unknownType]
  apply bind_eq_error_of_ok (lift_cell_eq_ok_iff.mpr (Row.text?_of_text told))
  exact bind_eq_error refused _

theorem Exasol.column_of_unknown (tells : TellsUnknownType .exasol row type) :
    column row = .error (unknownType .exasol name type) := by
  have cells := tells.exists_writable
  obtain ⟨-, -, -, told, unknown⟩ := tells
  obtain ⟨cell, typeCell, told⟩ := bind_eq_ok_iff.mp told
  obtain ⟨written, found, rfl⟩ := bind_pure_eq_ok_iff.mp told
  obtain ⟨default, defaultCell, expressed⟩ := cells "COLUMN_DEFAULT" (by simp [shownCells])
  obtain ⟨given, nameCell, named⟩ := cells "COLUMN_NAME" (by simp [shownCells])
  obtain ⟨allowed, nullCell, flagged⟩ := cells "COLUMN_IS_NULLABLE" (by simp [shownCells])
  obtain ⟨name, nameText⟩ := Value.exists_trimmed?_of_isWritable named
  obtain ⟨nullable, flag⟩ := Value.exists_isTrue_of_isWritable flagged
  obtain ⟨expression, defaultText⟩ := Value.exists_text?_of_isWritable expressed
  apply bind_eq_error_of_ok (lift_cell_eq_ok_iff.mpr typeCell)
  apply bind_eq_error_of_ok (lift_cell_eq_ok_iff.mpr found)
  apply bind_eq_error_of_ok (lift_cell_eq_ok_iff.mpr defaultCell)
  apply bind_eq_error_of_ok (lift_cell_eq_ok_iff.mpr ((Row.text?_of_cell nameCell).trans nameText))
  apply bind_eq_error_of_ok (lift_cell_eq_ok_iff.mpr ((Row.flag_of_cell nullCell).trans flag))
  apply bind_eq_error_of_ok (lift_cell_eq_ok_iff.mpr defaultText)
  exact bind_eq_error (lift_type_eq_error (Definition.make_of_unknown unknown)) _

theorem Snowflake.column_of_unknown (tells : TellsUnknownType .snowflake row type) :
    column row = .error (unknownType .snowflake name type) := by
  have cells := tells.exists_writable
  obtain ⟨given, nameCell⟩ := tells.exists_cell "name" (by simp [remainingCells])
  obtain ⟨-, -, -, told, unknown⟩ := tells
  obtain ⟨written, typeCell, rfl⟩ := bind_pure_eq_ok_iff.mp told
  obtain ⟨default, defaultCell, expressed⟩ := cells "default" (by simp [shownCells])
  obtain ⟨allowed, nullCell, worded⟩ := cells "null?" (by simp [shownCells])
  obtain ⟨word, nullText⟩ := Value.exists_trimmed?_of_isWritable worded
  obtain ⟨expression, defaultText⟩ := Value.exists_text?_of_isWritable expressed
  simp only [column]
  apply bind_eq_error_of_ok (lift_cell_eq_ok_iff.mpr typeCell)
  apply bind_eq_error_of_ok (lift_cell_eq_ok_iff.mpr defaultCell)
  apply bind_eq_error_of_ok (lift_cell_eq_ok_iff.mpr nameCell)
  apply bind_eq_error_of_ok (lift_cell_eq_ok_iff.mpr ((Row.text?_of_cell nullCell).trans nullText))
  apply bind_eq_error_of_ok (lift_cell_eq_ok_iff.mpr defaultText)
  exact bind_eq_error (lift_type_eq_error (Definition.make_of_unknown unknown)) _

/-- A row that tells an unknown type is not read as a column in any dialect. -/
theorem columnOfRow_of_unknown (tells : TellsUnknownType dialect row type) :
    columnOfRow dialect name row = .error (unknownType dialect name type) := by
  cases dialect with
  | synapse => exact congrArg (some <$> ·) (Synapse.column_of_unknown tells)
  | teradata => exact congrArg (some <$> ·) (Teradata.column_of_unknown tells)
  | exasol => exact congrArg (some <$> ·) (Exasol.column_of_unknown tells)
  | snowflake =>
      apply bind_eq_error_of_ok (lift_cell_eq_ok_iff.mpr (tells.column rfl))
      exact bind_eq_error (Snowflake.column_of_unknown tells) _

end Catalog

namespace Session

open Catalog

/-- The question is answered from the columns of a table. -/
def TableQuestion.ReadsColumns : TableQuestion → Prop
  | columnNames | columns | definition => True
  | objectId | isTemporary | primaryKeys | rowCount | distribution | index => False

/-- Every question about columns fails as their reading does. -/
theorem TableQuestion.ReadsColumns.fails {dialect : Dialect} {name : TableName}
    {question : TableQuestion} (reads : question.ReadsColumns) {found rows : List Row}
    {object : ObjectId} {query : Query (List Column)} {failure : Failure}
    (located : (lookup dialect name).read found = .ok (some object))
    (asked : columnsQuery dialect name object = .ok query)
    (unread : query.read rows = .error failure) :
    (question.ask dialect name).Fails [((lookup dialect name).sql.text dialect, found),
      (query.sql.text dialect, rows)] failure := by
  cases question with
  | columnNames | columns | definition =>
      exact (fails_columnsOf_bind located asked unread _).map _
  | objectId | isTemporary | primaryKeys | rowCount | distribution | index => exact reads.elim

/-- **An unknown type ends every question about columns.** Where the table is found and the
first row that is not read tells a type that the dialect does not know, the question ends with
this report, behind the statements that find the table and ask for its columns. The code of the
report is the same in all dialects; its family is that of the catalog only in Teradata. -/
theorem unknownType_of_told {σ : Type} {dialect : Dialect} {name : TableName}
    {question : TableQuestion} (reads : question.ReadsColumns) {found before after : List Row}
    {row : Row} {type : String} {object : ObjectId} {query : Query (List Column)}
    (located : (lookup dialect name).read found = .ok (some object))
    (asked : columnsQuery dialect name object = .ok query)
    (fine : ∀ earlier ∈ before, ∃ column, columnOfRow dialect name earlier = .ok column)
    (tells : TellsUnknownType dialect row type) {connection : Connection σ} {state : σ}
    (answers : connection.Answers state [((lookup dialect name).sql.text dialect, found),
      (query.sql.text dialect, before ++ row :: after)]) :
    let run := (question.ask dialect name).run connection state
    run.outcome = .error (unknownType dialect name type) ∧
      run.statements = [(lookup dialect name).sql.text dialect, query.sql.text dialect] ∧
      (unknownType dialect name type).code? = some .invalidType ∧
      (unknownType dialect name type).refusal? =
        some (if dialect = .teradata then .catalog else .type) := by
  have unread : query.read (before ++ row :: after) = .error (unknownType dialect name type) :=
    read_eq_error_of_first asked fine (columnOfRow_of_unknown tells)
  obtain ⟨outcome, statements⟩ := (reads.fails located asked unread).run_eq answers
  refine ⟨outcome, statements, ?_⟩
  cases dialect <;> exact ⟨rfl, rfl⟩

/-- Behind a column of dates stands one of a type that Exasol does not know. -/
theorem unknownType_of_told_dates :
    let name : TableName := ⟨"shop", "dates"⟩
    let known : Row := [("COLUMN_NAME", .text "day"), ("COLUMN_TYPE", .text "DATE"),
      ("COLUMN_IS_NULLABLE", .flag true), ("COLUMN_DEFAULT", .null)]
    let other : Row := [("COLUMN_NAME", .text "tag"), ("COLUMN_TYPE", .text "UUID"),
      ("COLUMN_IS_NULLABLE", .flag true), ("COLUMN_DEFAULT", .null)]
    let answers : List (List Row) := [[[("TABLE_OBJECT_ID", .number 7)]], [known, other]]
    let run := (TableQuestion.columnNames.ask .exasol name).run Connection.prepared answers
    run.outcome = .error (.type (.unknownType "UUID" .exasol)) := by
  intro name known other answers run
  let date : Definition := {
    dialect := .exasol, type := "DATE", length := none, nullable := true, default := none
    characterSet := none, type_mem := by decide, characterSet_isSome := rfl }
  have located : (lookup .exasol name).read [[("TABLE_OBJECT_ID", .number 7)]] =
      .ok (some (some "7")) := by
    decide
  have fine : ∀ earlier ∈ [known], ∃ column, columnOfRow .exasol name earlier = .ok column := by
    intro earlier member
    obtain rfl := List.mem_singleton.mp member
    exact ⟨some ⟨.plain, .text "day", date, rfl⟩, by decide⟩
  have tells : TellsUnknownType .exasol other "UUID" := {
    present := by decide
    shown := by decide
    column := fun reported => by cases reported
    told := by decide
    unknown := by
      change Text.capitalWords "UUID" ∉ Dialect.exasol.typeNames
      decide }
  have reads : TableQuestion.columnNames.ReadsColumns := trivial
  have answered : Connection.prepared.Answers answers [
      ((lookup .exasol name).sql.text .exasol, [[("TABLE_OBJECT_ID", .number 7)]]),
      ((Exasol.columns name).sql.text .exasol, [known] ++ other :: [])] :=
    ⟨_, rfl, _, rfl, trivial⟩
  exact (unknownType_of_told reads located rfl fine tells answered).1

/-- In Synapse the report of an unknown type is not one about the catalog. -/
theorem unknownType_not_catalog :
    let name : TableName := ⟨"s", "t"⟩
    let row : Row := [("column_name", .text "c"), ("type_name", .text "xml"),
      ("max_length", .number 4), ("precision", .number 10), ("scale", .number 0),
      ("is_nullable", .flag true), ("default_value", .text "(0)")]
    let answers : List (List Row) := [[[("object_id", .number 7)]], [row]]
    let run := (TableQuestion.columns.ask .synapse name).run Connection.prepared answers
    TellsUnknownType .synapse row "XML" ∧
      run.outcome = .error (.type (.unknownType "XML" .synapse)) ∧
      (Failure.type (.unknownType "XML" .synapse)).refusal? ≠ some .catalog := by
  intro name row answers run
  have tells : TellsUnknownType .synapse row "XML" := {
    present := by decide
    shown := by decide
    column := fun reported => by cases reported
    told := by decide
    unknown := by
      change Text.capitalWords "XML" ∉ Dialect.synapse.typeNames
      decide }
  have located : (lookup .synapse name).read [[("object_id", .number 7)]] =
      .ok (some (some "7")) := by
    decide
  have numbered : Synapse.objectNumber (some "7") = .ok "7" := by decide
  obtain ⟨query, asked⟩ : ∃ query, columnsQuery .synapse name (some "7") = .ok query :=
    ⟨_, bind_pure_eq_ok_iff.mpr ⟨"7", numbered, rfl⟩⟩
  have unread : query.read ([] ++ row :: []) = .error (unknownType .synapse name "XML") :=
    read_eq_error_of_first asked (by simp) (columnOfRow_of_unknown tells)
  have reads : TableQuestion.columns.ReadsColumns := trivial
  refine ⟨tells, ?_, by decide⟩
  exact ((reads.fails located asked unread).run_eq ⟨_, rfl, _, rfl, trivial⟩).1

end Session

end Warehouse
