import Warehouse.Proofs.Catalog.TeradataDescription

/-! # Lengths and character sets of Teradata texts

The dictionary gives the length of a text in bytes and its character set by a number. The
reader halves the length for the number of Unicode. A number that it does not know is left to
the column type, which takes Unicode for it, and the length is not halved then. So a length
counts the characters of its character set for the two known numbers, and for no other one
unless it is zero (`Teradata.characters_of_column`). -/

namespace Warehouse.Catalog.Teradata

open Warehouse.Computation

/-- The length of the column type is the number of characters that fit into the bytes. -/
def CountsCharacters (bytes : Nat) (definition : Definition) : Prop :=
  ∃ set ∈ definition.characterSet,
    definition.length.map Length.text = some (toString (bytes / width set))

/-- A number is taken for a length as it is written, unless it is negative. -/
theorem length_of_number {type : String} {number : Int} {length : Option Length}
    (measured : Definition.lengthFor type (.text (toString number)) = .ok length) :
    ∃ size : Nat, number = size ∧ length.map Length.text = some (toString size) := by
  have whole : withoutSpaces (toString number) = toString number :=
    withoutSpaces_of_spaceless fun space => (Text.plain_of_mem_toString space).2.2.1 rfl
  have told : length.map Length.text = some (toString number) := by
    rw [(Definition.lengthFor_eq_ok_iff.mp measured).2, Value.lengthText?_text, whole]
    rw [whole]
    exact Text.toString_ne_empty number
  obtain ⟨length, rfl, text⟩ := Option.map_eq_some_iff.mp told
  have unsigned : 0 ≤ number := by
    by_contra negative
    apply length.minus_not_mem_text
    rw [text, Text.toList_toString, if_pos (Int.not_le.mp negative)]
    exact List.mem_cons_self
  obtain ⟨size, rfl⟩ := Int.eq_ofNat_of_zero_le unsigned
  exact ⟨size, rfl, told⟩

/-- The length of a text is made of the bytes in its row, halved for character set number 2. -/
theorem bytes_of_length {code type : String} {number : Option Int} {row : Row}
    {told : Option String} {length : Option Length} (character : isCharacterCode code = true)
    (read : Teradata.length code number row = .ok told)
    (measured : Definition.lengthFor type (.ofText? told) = .ok length) :
    ∃ bytes : Nat, row.integer? "ColumnLength" = .ok (some (bytes : Int)) ∧
      length.map Length.text =
        some (toString (if number = some 2 then bytes / 2 else bytes)) := by
  simp only [Teradata.length, character, ↓reduceIte, bind_eq_ok_iff] at read
  obtain ⟨cell, bytesCell, rest⟩ := read
  rw [bytesCell]
  by_cases unicode : number = some 2
  · simp only [unicode, ↓reduceIte] at rest
    obtain ⟨half, divided, rest⟩ := bind_eq_ok_iff.mp rest
    obtain ⟨numeral, written, rfl⟩ := bind_pure_eq_ok_iff.mp rest
    obtain rfl := Value.eq_toString_of_asText written
    obtain ⟨size, rfl, text⟩ := length_of_number measured
    cases cell with
    | none => cases divided
    | some bytes =>
        have floor : Int.fdiv bytes 2 = size := Except.ok.inj divided
        rw [Int.fdiv_eq_ediv_of_nonneg bytes (by decide)] at floor
        obtain ⟨count, rfl⟩ := Int.eq_ofNat_of_zero_le (show 0 ≤ bytes by omega)
        have same : size = count / 2 := by omega
        exact ⟨count, rfl, by rw [text, same, if_pos unicode]⟩
  · simp only [unicode, ↓reduceIte, bind_pure_eq_ok_iff] at rest
    obtain ⟨numeral, written, rfl⟩ := rest
    cases cell with
    | none =>
        cases written
        have told : length.map Length.text = some "None" :=
          (Definition.lengthFor_eq_ok_iff.mp measured).2
        obtain ⟨length, rfl, text⟩ := Option.map_eq_some_iff.mp told
        have accepted := length.accepted
        rw [text] at accepted
        exact absurd accepted (by decide)
    | some bytes =>
        obtain rfl := Value.eq_toString_of_asText written
        obtain ⟨size, rfl, text⟩ := length_of_number measured
        exact ⟨size, rfl, by rw [text, if_neg unicode]⟩

/-- The types with a character code are those with a character set. -/
theorem takesCharacterSet_of_known {name : TableName} {code : String} {found : String × String}
    (character : isCharacterCode code = true) (known : typeOfCode name (some code) = .ok found) :
    found.1 = code ∧ Dialect.teradata.takesCharacterSet (Text.capitalWords found.2) = true := by
  have member : code ∈ ["CV", "CF", "CO"] := List.contains_iff_mem.mp character
  simp only [List.mem_cons, List.not_mem_nil, or_false] at member
  obtain rfl | rfl | rfl := member
  all_goals
    cases known
    exact ⟨rfl, by decide⟩

/-- What the number of a character set stands for, with the set that the column type fills in. -/
theorem getD_characterSet? (number : Option Int) :
    (characterSet? number).getD .unicode = if number = some 1 then .latin else .unicode := by
  unfold characterSet?
  split <;> simp_all

theorem countsCharacters_iff {definition : Definition} {number : Option Int} {bytes : Nat}
    (set : definition.characterSet = some (if number = some 1 then .latin else .unicode))
    (text : definition.length.map Length.text =
      some (toString (if number = some 2 then bytes / 2 else bytes))) :
    CountsCharacters bytes definition ↔ number = some 1 ∨ number = some 2 ∨ bytes = 0 := by
  simp only [CountsCharacters, set, text, Option.mem_some_iff, exists_eq_left', Option.some.injEq,
    Text.numeral_inj]
  by_cases latin : number = some 1
  · simp [latin, width]
  · by_cases unicode : number = some 2
    · simp [unicode, width]
    · simp only [latin, unicode, ↓reduceIte, width, false_or]
      omega

/-- **Length and character set of a text.** The bytes in the row are halved for character set
number 2 only, while every number other than 1, and a missing one, makes the text a Unicode
text. So the length counts the characters of the character set exactly for the numbers 1 and
2, or if there are no bytes. -/
theorem characters_of_column {name : TableName} {row : Row} {code : String} {made : Column}
    (coded : row.text? "ColumnType" = .ok (some code)) (character : isCharacterCode code = true)
    (read : column name row = .ok made) :
    ∃ (number : Option Int) (bytes : Nat),
      row.integer? "CharType" = .ok number ∧
      row.integer? "ColumnLength" = .ok (some (bytes : Int)) ∧
      made.definition.characterSet = some (if number = some 1 then .latin else .unicode) ∧
      made.definition.length.map Length.text =
        some (toString (if number = some 2 then bytes / 2 else bytes)) ∧
      (CountsCharacters bytes made.definition ↔
        number = some 1 ∨ number = some 2 ∨ bytes = 0) := by
  simp only [column, bind_eq_ok_iff, lift_cell_eq_ok_iff, lift_type_eq_ok_iff] at read
  obtain ⟨_, typeCell, ⟨code', type⟩, known, number, numberCell, default, -, columnName, -, told,
    lengthCells, nullable, -, expression, -, definition, specified, named⟩ := read
  cases coded.symm.trans typeCell
  obtain ⟨rfl, takes⟩ := takesCharacterSet_of_known character known
  obtain ⟨-, -, measured, -, -, set, chosen, same⟩ := Definition.make_eq_ok_iff.mp specified
  obtain ⟨-, -, rfl⟩ := Column.ofName_eq_ok_iff.mp named
  rw [if_pos character] at chosen
  rw [Definition.characterSetFor_eq_ok takes chosen, getD_characterSet?] at same
  obtain ⟨bytes, bytesCell, text⟩ := bytes_of_length character lengthCells measured
  exact ⟨number, bytes, numberCell, bytesCell, same, text, countsCharacters_iff same text⟩

/-- A Unicode text of twelve characters, in twenty-four bytes. -/
theorem characters_of_column_item :
    let row : Row := [("ColumnName", .text "item"), ("ColumnType", .text "CV"),
      ("CharType", .text " 2"), ("ColumnLength", .text "24"), ("Nullable", .text "N"),
      ("DefaultValue", .null)]
    ∃ made, column ⟨"shop", "prices"⟩ row = .ok made ∧ CountsCharacters 24 made.definition := by
  intro row
  let item : Definition := {
    dialect := .teradata, type := "VARCHAR", length := some ⟨"12", by decide⟩
    nullable := false, default := none, characterSet := some .unicode
    type_mem := by decide, characterSet_isSome := rfl }
  have coded : row.text? "ColumnType" = .ok (some "CV") := by decide
  have described : DescribesColumn row ⟨.plain, .text "item", item, rfl⟩ := {
    dialect := rfl
    name := ⟨"item", rfl, by decide⟩
    type := ⟨"CV", by decide, coded⟩
    characterSet := ⟨some 2, by decide, fun set member => by cases member; rfl⟩
    length := @DescribesLength.characters _ _ _ _ 12 (by decide) (by decide)
    nullable := by decide
    default := by decide }
  have read := described.column_eq ⟨"shop", "prices"⟩
  obtain ⟨number, bytes, numberCell, bytesCell, -, -, counts⟩ :=
    characters_of_column coded (by decide) read
  have two : row.integer? "CharType" = .ok (some 2) := by decide
  have twentyFour : row.integer? "ColumnLength" = .ok (some 24) := by decide
  cases two.symm.trans numberCell
  cases Except.ok.inj (twentyFour.symm.trans bytesCell)
  exact ⟨_, read, counts.mpr (.inr (.inl rfl))⟩

/-- Without a number, a text of a hundred bytes is read as a Unicode text of a hundred
characters, which take two hundred. -/
theorem not_countsCharacters_of_null :
    let row : Row := [("ColumnName", .text "c"), ("ColumnType", .text "CV"), ("CharType", .null),
      ("ColumnLength", .number 100), ("Nullable", .flag true), ("DefaultValue", .null)]
    let wide : Definition := {
      dialect := .teradata, type := "VARCHAR", length := some ⟨"100", by decide⟩
      nullable := true, default := none, characterSet := some .unicode
      type_mem := by decide, characterSet_isSome := rfl }
    column ⟨"s", "t"⟩ row = .ok ⟨.plain, .text "c", wide, rfl⟩ ∧
      row.integer? "ColumnLength" = .ok (some 100) ∧ ¬ CountsCharacters 100 wide := by
  intro row wide
  refine ⟨by decide, by decide, ?_⟩
  rw [@countsCharacters_iff wide none 100 rfl (by decide)]
  decide

end Warehouse.Catalog.Teradata
