import Warehouse.Proofs.Catalog.ColumnRow
import Warehouse.Proofs.Catalog.Description
import Warehouse.Proofs.Catalog.WrittenType
import Warehouse.Proofs.Datatype.Acceptance

/-! # Reading a described Exasol table

The system tables of Exasol describe a column by its written type, in which the length
stands (`Exasol.WrittenType.ofText_of_writes`), whether it allows null, and its default as
it is. The size of a hash has to be short enough to have a numeral. Reading any such
description of a table yields the table (`Exasol.definition_of_systemTables`). -/

namespace Warehouse.Catalog.Exasol

open Warehouse.Computation

/-- The row describes the column. -/
structure DescribesColumn (row : Row) (column : Column) : Prop where
  dialect : column.dialect = .exasol
  name : ∃ text, column.name = .text text ∧ row.text? "COLUMN_NAME" = .ok (some text)
  type : ∃ written text, row.cell "COLUMN_TYPE" = .ok (.text written) ∧
    Writes column.definition.type text column.definition.length ∧
    Text.Spells written.toList text.toList
  nullable : row.flag "COLUMN_IS_NULLABLE" = .ok column.definition.nullable
  default : ∃ cell, row.cell "COLUMN_DEFAULT" = .ok cell ∧
    cell.text? = .ok column.definition.default

/-- A column that a row describes is read, declared plainly. -/
theorem DescribesColumn.column_eq {row : Row} {described : Column}
    (describes : DescribesColumn row described) : column row = .ok described.plain := by
  obtain ⟨own, ⟨text, named, nameCell⟩, ⟨written, normal, typeCell, writes, spells⟩, nullCell,
    cell, defaultCell, told⟩ := describes
  have known := type_mem_of_dialect own
  have typeRead : WrittenType.ofCell (.text written) =
      .ok ⟨described.definition.type, described.definition.length.map Length.text⟩ := by
    rw [WrittenType.ofCell_text, WrittenType.ofText_of_writes known writes spells]
  have made := make_of_dialect own (by decide)
  simp only [column, bind_eq_ok_iff, lift_cell_eq_ok_iff, lift_type_eq_ok_iff]
  exact ⟨_, typeCell, _, typeRead, cell, defaultCell, some text, nameCell, _, nullCell, _, told, _,
    made, Column.ofName_eq_ok_iff.mpr ⟨rfl, named, rfl⟩⟩

/-- The queries about the table, each with its answer. -/
def exchange (description : Description) (name : TableName) : Exchange :=
  description.exchange .exasol (lookup name) (columns name) (keys name)

/-- **Whatever table the system tables of Exasol describe, by sizes that are short enough to be
written, reading it over a connection that answers with the description yields the table.** -/
theorem definition_of_systemTables {σ : Type} {definition : TableDefinition}
    {description : Description}
    (describes : description.Describes "TABLE_OBJECT_ID" "COLUMN_NAME" DescribesColumn definition)
    {connection : Connection σ} {state : σ}
    (answers : connection.Answers state (exchange description definition.name)) :
    ∃ read, ((Catalog.definition .exasol definition.name).run connection state).outcome =
        .ok read ∧ read.sameAs definition = true :=
  exists_read_of_reaches (describes.reaches_definition (fun _ _ => rfl) (fun _ => rfl)
    (fun _ => rfl) (fun _ _ described => described.column_eq) (fun _ => rfl)
    (fun _ => rfl) rfl fun _ => rfl) answers

/-- A table of a hash, whose size is told in bits, and a number is read from its description,
in which the types are spelled in their own way. -/
theorem definition_of_systemTables_files :
    let digest : Definition := {
      dialect := .exasol, type := "HASHTYPE", length := some ⟨"16", by decide +kernel⟩
      nullable := false, default := none, characterSet := none
      type_mem := by decide, characterSet_isSome := by decide }
    let weight : Definition := {
      dialect := .exasol, type := "DOUBLE PRECISION", length := none
      nullable := true, default := some " 1.5 ", characterSet := none
      type_mem := by decide, characterSet_isSome := by decide }
    let files : TableDefinition := {
      name := ⟨"shop", "files"⟩, temporary := false
      columns := ⟨[⟨.plain, .text "digest", digest, by decide⟩,
        ⟨.plain, .text "weight", weight, by decide⟩], by decide, by decide⟩
      primaryKeys := [.text "digest"], storage := none
      keys_present := by decide, storage_present := by simp }
    let digestRow : Row := [("COLUMN_NAME", .text "digest"),
      ("COLUMN_TYPE", .text "HashType\t(128  bit)"), ("COLUMN_IS_NULLABLE", .text "0"),
      ("COLUMN_DEFAULT", .null)]
    let weightRow : Row := [("column_name", .text "weight"),
      ("column_type", .text "double\n precision"), ("column_is_nullable", .flag true),
      ("column_default", .text " 1.5 ")]
    let answers : List (List Row) := [
      [[("TABLE_OBJECT_ID", .number 4711)], [("TABLE_OBJECT_ID", .null)]],
      [digestRow, weightRow], [[("COLUMN_NAME", .text "digest")]]]
    ∃ read, ((Catalog.definition .exasol files.name).run Connection.prepared answers).outcome =
        .ok read ∧ read.sameAs files = true := by
  intro digest weight files digestRow weightRow answers
  let description : Description :=
    ⟨[[("TABLE_OBJECT_ID", .number 4711)], [("TABLE_OBJECT_ID", .null)]], [digestRow, weightRow],
      [[("COLUMN_NAME", .text "digest")]]⟩
  have digestDescribed : DescribesColumn digestRow ⟨.plain, .text "digest", digest, by decide⟩ := {
    dialect := rfl
    name := ⟨"digest", rfl, by decide +kernel⟩
    type := by
      refine ⟨"HashType\t(128  bit)", "HASHTYPE (128 BIT)", by decide +kernel, ?_, ?_⟩
      · exact @Writes.sized "HASHTYPE" " " "128 BIT" "" _ (by decide)
          (@TellsLength.bits _ _ 16 rfl (by decide +kernel) (by decide +kernel)) (by decide)
      · apply Text.Spells.word "HashType".toList (by decide +kernel)
        apply Text.Spells.blanks "\t".toList (by decide +kernel) (by decide +kernel)
        apply Text.Spells.word "(128".toList (by decide +kernel)
        apply Text.Spells.blanks "  ".toList (by decide +kernel) (by decide +kernel)
        exact Text.Spells.word "bit)".toList (by decide +kernel) .nil
    nullable := by decide +kernel
    default := ⟨.null, by decide +kernel, rfl⟩ }
  have weightDescribed : DescribesColumn weightRow ⟨.plain, .text "weight", weight, by decide⟩ := {
    dialect := rfl
    name := ⟨"weight", rfl, by decide +kernel⟩
    type := by
      refine ⟨"double\n precision", "DOUBLE PRECISION", by decide +kernel, ?_, ?_⟩
      · exact @Writes.bare "DOUBLE PRECISION" "" (by decide)
      · apply Text.Spells.word "double".toList (by decide +kernel)
        apply Text.Spells.blanks "\n ".toList (by decide +kernel) (by decide +kernel)
        exact Text.Spells.word "precision".toList (by decide +kernel) .nil
    nullable := by decide +kernel
    default := ⟨.text " 1.5 ", by decide +kernel, rfl⟩ }
  have describes :
      description.Describes "TABLE_OBJECT_ID" "COLUMN_NAME" DescribesColumn files := {
    found := ⟨_, _, some "4711", rfl, by decide +kernel⟩
    permanent := rfl
    columns := .cons digestDescribed (.cons weightDescribed .nil)
    keys := .cons ⟨"digest", rfl, by decide +kernel⟩ .nil
    storage := rfl }
  exact definition_of_systemTables describes ⟨_, rfl, _, rfl, _, rfl, trivial⟩

/-- A hash of as many bytes as no numeral can be read for is not read, even if these are the
digits that a column type may have for a length. -/
theorem definition_of_systemTables_overlong :
    let digits := toString Text.leastOverlong
    let row : Row := [("COLUMN_NAME", .text "digest"),
      ("COLUMN_TYPE", .text ("HASHTYPE(" ++ digits ++ " BYTE)")),
      ("COLUMN_IS_NULLABLE", .flag true), ("COLUMN_DEFAULT", .null)]
    let answers : List (List Row) := [[[("TABLE_OBJECT_ID", .number 4711)]], [row]]
    (∃ described, Definition.make .exasol { type := "HASHTYPE", length := .text digits } =
        .ok described ∧ described.length.map Length.text = some digits) ∧
      ((Catalog.definition .exasol ⟨"shop", "files"⟩).run Connection.prepared answers).outcome =
        .error (.cell .notInteger) := by
  -- only what is read in the digits matters; they are not to be computed
  have numeral := @Definition.exists_make_of_numeral .exasol "HASHTYPE" (by decide +kernel)
    Text.leastOverlong
  have typeRead := WrittenType.ofText_hash Text.leastOverlong
  rw [if_neg (Nat.lt_irrefl _), ← WrittenType.ofCell_text] at typeRead
  generalize toString Text.leastOverlong = digits at numeral typeRead
  intro _ row answers
  have typeCell : row.cell "COLUMN_TYPE" = .ok (.text ("HASHTYPE(" ++ digits ++ " BYTE)")) := rfl
  have unread : column row = .error (.cell .notInteger) :=
    bind_eq_error_of_ok (lift_cell_eq_ok_iff.mpr typeCell)
      (bind_eq_error (lift_cell_eq_error typeRead) _)
  have located : (lookup ⟨"shop", "files"⟩).read [[("TABLE_OBJECT_ID", .number 4711)]] =
      .ok (some (some "4711")) := by
    decide +kernel
  have rows : (columns ⟨"shop", "files"⟩).read ([] ++ row :: []) = .error (.cell .notInteger) :=
    @read_eq_error_of_first .exasol _ none _ rfl _ _ _ _ (by simp)
      (congrArg (Functor.map some) unread)
  refine ⟨numeral, ?_⟩
  exact @outcome_definition_of_unread .exasol ⟨"shop", "files"⟩ (some "4711") _ _ _ _ _ located rfl
    rows _ _ ⟨_, rfl, _, rfl, trivial⟩

end Warehouse.Catalog.Exasol
