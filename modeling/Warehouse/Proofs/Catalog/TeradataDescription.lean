import Warehouse.Proofs.Catalog.ColumnRow
import Warehouse.Proofs.Catalog.Description
import Warehouse.Proofs.Datatype.Acceptance
import Warehouse.Proofs.Text.DecimalNumeral

/-! # Reading a described Teradata table

The `DBC` dictionary describes a column by a type code, a length in bytes, the number of a
character set and the digits of a decimal number, each as a number or as its numeral
(`Value.integer?_of_numeral`) and with padding around texts. Lengths have to be short enough to
have a numeral. A row tells these apart by the type code alone, so the code has to agree with
the type on what is told. Reading any such description of a table yields the table
(`Teradata.definition_of_dictionary`). -/

namespace Warehouse.Catalog.Teradata

open Warehouse.Computation

/-! ## Columns -/

/-- The bytes that a character takes. -/
def width : CharacterSet → Nat
  | .latin => 1
  | .unicode => 2

/-- The number of a character set in the dictionary. -/
def characterNumber : CharacterSet → Int
  | .latin => 1
  | .unicode => 2

/-- The cells of a row tell the length that goes with a type and its character set. -/
inductive DescribesLength (row : Row) (type : String) :
    Option CharacterSet → Option Length → Prop where
  | characters {set : CharacterSet} {length : Length} {size : Nat}
      (numeral : Text.ofInteger? size = some length.text)
      (cell : row.integer? "ColumnLength" = .ok (some (width set * size : Nat))) :
      DescribesLength row type (some set) (some length)
  | bytes {length : Length} {size : Nat} (sized : type ∈ ["BYTE", "VARBYTE"])
      (numeral : Text.ofInteger? size = some length.text)
      (cell : row.integer? "ColumnLength" = .ok (some (size : Int))) :
      DescribesLength row type none (some length)
  | exact {first second : String} {length : Length} {total fractional : Nat}
      (scaled : type = "DECIMAL") (digits : Text.ofInteger? total = some first)
      (decimals : Text.ofInteger? fractional = some second)
      (numerals : length.text = first ++ "," ++ second)
      (totalCell : row.integer? "DecimalTotalDigits" = .ok (some (total : Int)))
      (fractionalCell : row.integer? "DecimalFractionalDigits" = .ok (some (fractional : Int))) :
      DescribesLength row type none (some length)
  | without (fixed : type ∉ ["BYTE", "VARBYTE", "DECIMAL"]) : DescribesLength row type none none

/-- The row describes the column. What it says about a character set counts only for types
that have one, but has to be a number or null in any case. -/
structure DescribesColumn (row : Row) (column : Column) : Prop where
  dialect : column.dialect = .teradata
  name : ∃ text, column.name = .text text ∧ row.text? "ColumnName" = .ok (some text)
  type : ∃ code, (code, column.definition.type) ∈ typeCodes ∧
    row.text? "ColumnType" = .ok (some code)
  characterSet : ∃ number, row.integer? "CharType" = .ok number ∧
    ∀ set ∈ column.definition.characterSet, number = some (characterNumber set)
  length : DescribesLength row column.definition.type column.definition.characterSet
    column.definition.length
  nullable : row.flag "Nullable" = .ok column.definition.nullable
  default : row.text? "DefaultValue" = .ok column.definition.default

theorem lookup_of_mem_typeCodes {code type : String} (known : (code, type) ∈ typeCodes) :
    typeCodes.lookup code = some type := by
  have all : ∀ pair ∈ typeCodes, typeCodes.lookup pair.1 = some pair.2 := by decide
  exact all _ known

/-- A code and its type agree on what is told of a column. -/
theorem agree_of_mem_typeCodes {code type : String} (known : (code, type) ∈ typeCodes) :
    isCharacterCode code = Dialect.teradata.takesCharacterSet type ∧
      isByteCode code = ["BYTE", "VARBYTE"].contains type ∧ (code = "D" ↔ type = "DECIMAL") := by
  have all : ∀ pair ∈ typeCodes,
      isCharacterCode pair.1 = Dialect.teradata.takesCharacterSet pair.2 ∧
        isByteCode pair.1 = ["BYTE", "VARBYTE"].contains pair.2 ∧
        (pair.1 = "D" ↔ pair.2 = "DECIMAL") := by decide
  exact all _ known

theorem halved_unicode (size : Nat) :
    halved (some (width .unicode * size : Nat)) = .ok (size : Int) := by
  have bytes : ((width .unicode * size : Nat) : Int) = 2 * size := by simp [width]
  rw [bytes, halved_double]

variable {row : Row} {type code : String} {set : Option CharacterSet} {told : Option Length}

theorem DescribesLength.length_eq (describes : DescribesLength row type set told)
    (known : (code, type) ∈ typeCodes)
    (takes : set.isSome = Dialect.teradata.takesCharacterSet type) {number : Option Int}
    (numbered : ∀ present ∈ set, number = some (characterNumber present)) :
    length code number row = .ok (told.map Length.text) := by
  obtain ⟨ofCharacters, ofBytes, ofDecimal⟩ := agree_of_mem_typeCodes known
  rw [← takes] at ofCharacters
  unfold length
  cases describes with
  | @characters set _ size numeral cell =>
      have character : isCharacterCode code = true := ofCharacters
      have written := Value.asText_number_eq_ok_iff.mpr numeral
      rw [if_pos character, cell, numbered set rfl]
      cases set with
      | latin =>
          simp [bind, Except.bind, characterNumber, width, Value.ofNumber?, written]
          rfl
      | unicode =>
          simp only [characterNumber, ↓reduceIte, bind, Except.bind, halved_unicode, written]
          rfl
  | bytes sized numeral cell =>
      have character : ¬ isCharacterCode code = true := by simp [ofCharacters]
      have byte : isByteCode code = true := by simpa [ofBytes] using sized
      rw [if_neg character, if_pos byte, numeral_of_integer? cell numeral]
      rfl
  | exact scaled digits decimals numerals totalCell fractionalCell =>
      have character : ¬ isCharacterCode code = true := by simp [ofCharacters]
      have byte : ¬ isByteCode code = true := by simp [ofBytes, scaled]
      rw [if_neg character, if_neg byte, if_pos (ofDecimal.mpr scaled),
        numeral_of_integer? totalCell digits, numeral_of_integer? fractionalCell decimals,
        Option.map_some, numerals]
      rfl
  | without fixed =>
      simp only [List.mem_cons, List.not_mem_nil, or_false, not_or] at fixed
      have character : ¬ isCharacterCode code = true := by simp [ofCharacters]
      have byte : ¬ isByteCode code = true := by simp [ofBytes, fixed]
      rw [if_neg character, if_neg byte, if_neg (mt ofDecimal.mp fixed.2.2)]
      rfl

theorem characterSet_of_described {number : Option Int}
    (takes : set.isSome = Dialect.teradata.takesCharacterSet type)
    (known : (code, type) ∈ typeCodes)
    (numbered : ∀ present ∈ set, number = some (characterNumber present)) :
    (if isCharacterCode code then characterSet? number else none) = set := by
  rw [(agree_of_mem_typeCodes known).1, ← takes]
  cases set with
  | none => rfl
  | some present =>
      rw [numbered present rfl]
      cases present <;> rfl

/-- A column that a row describes is read, declared plainly. -/
theorem DescribesColumn.column_eq {described : Column} (describes : DescribesColumn row described)
    (name : TableName) : column name row = .ok described.plain := by
  obtain ⟨own, ⟨text, named, nameCell⟩, ⟨code, known, typeCell⟩, ⟨number, numberCell, numbered⟩,
    lengthCells, nullCell, defaultText⟩ := describes
  have takes : described.definition.characterSet.isSome =
      Dialect.teradata.takesCharacterSet described.definition.type := by
    rw [described.definition.characterSet_isSome]
    exact congrArg (Dialect.takesCharacterSet · described.definition.type) own
  have made := described.definition.make_spec
  rw [Definition.spec, show described.definition.dialect = .teradata from own,
    ← characterSet_of_described takes known numbered] at made
  have found : typeOfCode name (some code) = .ok (code, described.definition.type) := by
    simp only [typeOfCode, lookup_of_mem_typeCodes known]
  obtain ⟨cell, defaultCell, trimmed⟩ := bind_eq_ok_iff.mp defaultText
  simp only [column, bind_eq_ok_iff, lift_cell_eq_ok_iff, lift_type_eq_ok_iff]
  exact ⟨some code, typeCell, _, found, number, numberCell, cell, defaultCell, some text, nameCell,
    _, lengthCells.length_eq known takes numbered, _, nullCell, _, trimmed, _, made,
    Column.ofName_eq_ok_iff.mpr ⟨rfl, named, rfl⟩⟩

/-! ## Tables -/

/-- The queries about the table, each with its answer. -/
def exchange (description : Description) (name : TableName) : Exchange :=
  description.exchange .teradata (lookup name) (columns name) (keys name)

/-- **Whatever table the Teradata dictionary describes, by numbers that are short enough to be
written, reading it over a connection that answers with the description yields the table.** -/
theorem definition_of_dictionary {σ : Type} {definition : TableDefinition}
    {description : Description}
    (describes : description.Describes "object_id" "ColumnName" DescribesColumn definition)
    {connection : Connection σ} {state : σ}
    (answers : connection.Answers state (exchange description definition.name)) :
    ∃ read, ((Catalog.definition .teradata definition.name).run connection state).outcome =
        .ok read ∧ read.sameAs definition = true :=
  exists_read_of_reaches (describes.reaches_definition (fun _ _ => rfl) (fun _ => rfl)
    (fun _ => rfl) (fun _ _ described => described.column_eq definition.name) (fun _ => rfl)
    (fun _ => rfl) rfl fun _ => rfl) answers

/-- A table of a Unicode column, which is told by numerals and padded texts, and a decimal
column is read from its description. -/
theorem definition_of_dictionary_prices :
    let item : Definition := {
      dialect := .teradata, type := "VARCHAR", length := some ⟨"12", by decide⟩
      nullable := false, default := some "'-'", characterSet := some .unicode
      type_mem := by decide, characterSet_isSome := by decide }
    let price : Definition := {
      dialect := .teradata, type := "DECIMAL", length := some ⟨"18,2", by decide⟩
      nullable := true, default := none, characterSet := none
      type_mem := by decide, characterSet_isSome := by decide }
    let prices : TableDefinition := {
      name := ⟨"shop", "prices"⟩, temporary := false
      columns := ⟨[⟨.plain, .text "item", item, by decide⟩,
        ⟨.plain, .text "price", price, by decide⟩], by decide, by decide⟩
      primaryKeys := [.text "item"], storage := none
      keys_present := by decide, storage_present := by simp }
    let itemRow : Row := [("ColumnName", .text "item "), ("ColumnType", .text "CV"),
      ("CharType", .text " 2"), ("ColumnLength", .text "24"), ("Nullable", .text "N"),
      ("DefaultValue", .text "'-'")]
    let priceRow : Row := [("ColumnName", .text "price"), ("ColumnType", .text "D "),
      ("CharType", .number 0), ("DecimalTotalDigits", .number 18),
      ("DecimalFractionalDigits", .number 2), ("Nullable", .text "Y"), ("DefaultValue", .null)]
    let answers : List (List Row) :=
      [[[("object_id", .null)]], [itemRow, priceRow], [[("ColumnName", .text " item")]]]
    ∃ read, ((Catalog.definition .teradata prices.name).run Connection.prepared answers).outcome =
        .ok read ∧ read.sameAs prices = true := by
  intro item price prices itemRow priceRow answers
  let description : Description :=
    ⟨[[("object_id", .null)]], [itemRow, priceRow], [[("ColumnName", .text " item")]]⟩
  have itemDescribed : DescribesColumn itemRow ⟨.plain, .text "item", item, by decide⟩ := {
    dialect := rfl
    name := ⟨"item", rfl, by decide⟩
    type := ⟨"CV", by decide, by decide⟩
    characterSet := ⟨some 2, by decide, by rintro _ ⟨⟩; rfl⟩
    length := @DescribesLength.characters _ _ _ _ 12 (by decide) (by decide)
    nullable := by decide
    default := by decide }
  have priceDescribed : DescribesColumn priceRow ⟨.plain, .text "price", price, by decide⟩ := {
    dialect := rfl
    name := ⟨"price", rfl, by decide⟩
    type := ⟨"D", by decide, by decide⟩
    characterSet := ⟨some 0, by decide, by simp [price]⟩
    length := @DescribesLength.exact _ _ "18" "2" _ 18 2 rfl (by decide)
      (by decide) (by decide) (by decide) (by decide)
    nullable := by decide
    default := by decide }
  have describes : description.Describes "object_id" "ColumnName" DescribesColumn prices := {
    found := ⟨_, _, none, rfl, rfl⟩
    permanent := rfl
    columns := .cons itemDescribed (.cons priceDescribed .nil)
    keys := .cons ⟨"item", rfl, by decide⟩ .nil
    storage := rfl }
  exact definition_of_dictionary describes ⟨_, rfl, _, rfl, _, rfl, trivial⟩

/-- A column of bytes is not read if their number is too large for a numeral, however the
number is told. -/
theorem column_eq_error_of_overlong {name : TableName} {row : Row} {code type : String}
    {number : Option Int} {default : Value} {columnName : Option String} {size : Int}
    (known : (code, type) ∈ typeCodes) (bytes : isByteCode code = true)
    (typeCell : row.text? "ColumnType" = .ok (some code))
    (numberCell : row.integer? "CharType" = .ok number)
    (defaultCell : row.cell "DefaultValue" = .ok default)
    (nameCell : row.text? "ColumnName" = .ok columnName)
    (sizeCell : row.integer? "ColumnLength" = .ok (some size))
    (overlong : Text.leastOverlong ≤ size) :
    column name row = .error (.cell .overlongNumber) := by
  have found : typeOfCode name (some code) = .ok (code, type) := by
    simp only [typeOfCode, lookup_of_mem_typeCodes known]
  have other : ∀ code, isByteCode code = true → isCharacterCode code = false := by
    intro code member
    rcases List.mem_pair.mp (List.contains_iff_mem.mp member) with rfl | rfl <;> decide
  have character : ¬ isCharacterCode code = true := by simp [other code bytes]
  have unwritten : row.numeral "ColumnLength" = .error .overlongNumber := by
    rw [Row.numeral, sizeCell]
    exact Value.asText_number_eq_error (by omega)
  have measured : length code number row = .error .overlongNumber := by
    rw [length, if_neg character, if_pos bytes, unwritten]
    rfl
  apply bind_eq_error_of_ok (lift_cell_eq_ok_iff.mpr typeCell)
  apply bind_eq_error_of_ok found
  apply bind_eq_error_of_ok (lift_cell_eq_ok_iff.mpr numberCell)
  apply bind_eq_error_of_ok (lift_cell_eq_ok_iff.mpr defaultCell)
  apply bind_eq_error_of_ok (lift_cell_eq_ok_iff.mpr nameCell)
  exact bind_eq_error (lift_cell_eq_error measured) _

/-- A column of as many bytes as no numeral can be written for is not read, even if its length is
told by the digits that a column type may have for one. -/
theorem definition_of_dictionary_overlong :
    let digits := toString Text.leastOverlong
    let row : Row := [("ColumnName", .text "image"), ("ColumnType", .text "BV"),
      ("ColumnLength", .text digits), ("CharType", .number 0), ("Nullable", .text "Y"),
      ("DefaultValue", .null)]
    let answers : List (List Row) := [[[("object_id", .null)]], [row]]
    (∃ described, Definition.make .teradata { type := "VARBYTE", length := .text digits } =
        .ok described ∧ described.length.map Length.text = some digits) ∧
      row.integer? "ColumnLength" = .ok (some (Text.leastOverlong : Int)) ∧
      ((Catalog.definition .teradata ⟨"shop", "images"⟩).run Connection.prepared answers).outcome =
        .error (.cell .overlongNumber) := by
  -- only what is read in the digits matters; they are not to be computed
  have numeral := @Definition.exists_make_of_numeral .teradata "VARBYTE" (by decide)
    Text.leastOverlong
  have told := Value.integer?_leastOverlong
  generalize toString Text.leastOverlong = digits at numeral told
  intro _ row answers
  have sizeCell : row.integer? "ColumnLength" = .ok (some (Text.leastOverlong : Int)) :=
    bind_eq_ok_iff.mpr ⟨.text digits, rfl, told⟩
  have typeCell : row.text? "ColumnType" = .ok (some "BV") :=
    bind_eq_ok_iff.mpr ⟨.text "BV", rfl, by decide⟩
  have nameCell : row.text? "ColumnName" = .ok (some "image") :=
    bind_eq_ok_iff.mpr ⟨.text "image", rfl, by decide⟩
  have numberCell : row.integer? "CharType" = .ok (some 0) :=
    bind_eq_ok_iff.mpr ⟨.number 0, rfl, by decide⟩
  have unread : column ⟨"shop", "images"⟩ row = .error (.cell .overlongNumber) :=
    @column_eq_error_of_overlong _ _ _ "VARBYTE" _ .null _ _ (by decide) (by decide) typeCell
      numberCell rfl nameCell sizeCell le_rfl
  have rows : (columns ⟨"shop", "images"⟩).read ([] ++ row :: []) =
      .error (.cell .overlongNumber) :=
    @read_eq_error_of_first .teradata _ none _ rfl _ _ _ _ (by simp)
      (congrArg (Functor.map some) unread)
  refine ⟨numeral, sizeCell, ?_⟩
  exact @outcome_definition_of_unread .teradata ⟨"shop", "images"⟩ none _ _ _ _ _ rfl rfl rows _ _
    ⟨_, rfl, _, rfl, trivial⟩

end Warehouse.Catalog.Teradata
