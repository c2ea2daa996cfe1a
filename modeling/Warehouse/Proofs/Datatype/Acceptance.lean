import Warehouse.Proofs.Datatype.Rendering

/-! # Which specifications of a column type are accepted

A specification is accepted for its name, for its length and for its character set, whatever
else it says. The length has to have a text, which a number with too many digits has not. It is
judged by this text without spaces, which is what the column type then keeps: a numeral, two
numerals with a comma between them, or MAX, up to one line feed at the very end. Such a line feed is the only line break that a column type without a default
brings into a statement (`Definition.make_accepts`). -/

namespace Warehouse

/-! ## Line breaks -/

/-- The code points of the characters that end a line. -/
def lineBreaks : List Nat :=
  [0x0A, 0x0B, 0x0C, 0x0D, 0x1C, 0x1D, 0x1E, 0x85, 0x2028, 0x2029]

/-- The character ends a line. -/
def isLineBreak (c : Char) : Bool := c.toNat ∈ lineBreaks

theorem IsLengthChar.unbroken {c : Char} (allowed : IsLengthChar c) : isLineBreak c = false := by
  have none : ∀ code ∈ lineBreaks, ¬ IsLengthChar (Char.ofNat code) := by decide +kernel
  refine decide_eq_false fun breaks => none c.toNat breaks ?_
  rwa [Char.ofNat_toNat]

theorem LengthForm.unbroken {chars : List Char} (form : LengthForm chars) :
    chars.any isLineBreak = false :=
  List.any_eq_false.mpr fun c member =>
    Bool.eq_false_iff.mp (form.isLengthChar c member).unbroken

/-- The only line break in a length is the one that is overlooked. -/
theorem AdmitsLength.breaks_iff {text : String} (admitted : AdmitsLength text) :
    text.toList.any isLineBreak = true ↔ ∃ front, text.toList = front ++ ['\n'] := by
  constructor
  · intro breaks
    rcases admitted with form | ⟨front, split, -⟩
    · rw [form.unbroken] at breaks
      cases breaks
    · exact ⟨front, split⟩
  · rintro ⟨front, split⟩
    rw [split, List.any_append, Bool.or_eq_true]
    exact .inr (by decide)

theorem Dialect.unbroken_of_mem_typeNames {dialect : Dialect} {type : String}
    (known : type ∈ dialect.typeNames) : type.toList.any isLineBreak = false := by
  revert type
  cases dialect <;> decide +kernel

/-! ## Character sets -/

/-- The character set may be given for the type. Only Teradata looks at it: a text type takes one
of two, where an empty word says no more than none, and no other type may be given any word. -/
def Dialect.AllowsCharacterSet (dialect : Dialect) (type : String) (given : Option String) : Prop :=
  dialect = .teradata → ∀ word ∈ given,
    type ∈ Dialect.characterTypes ∧ (word = "" ∨ Text.upper word ∈ ["LATIN", "UNICODE"])

theorem CharacterSet.exists_ofName?_iff {word : String} :
    (∃ set, ofName? word = some set) ↔ word ∈ ["LATIN", "UNICODE"] := by
  unfold ofName?
  split_ifs with latin unicode
  · simp [latin]
  · simp [unicode]
  · simp [latin, unicode]

namespace Definition

variable {dialect : Dialect}

theorem exists_characterSetFor_iff {type : String} {given : Option String} :
    (∃ set, characterSetFor dialect type given = .ok set) ↔
      dialect.AllowsCharacterSet type given := by
  unfold characterSetFor Dialect.AllowsCharacterSet
  by_cases takes : dialect.takesCharacterSet type = true
  · have both : dialect = .teradata ∧ type ∈ Dialect.characterTypes := by
      simpa [Dialect.takesCharacterSet] using takes
    cases given with
    | none => simp [takes]
    | some word =>
        by_cases empty : word = ""
        · simp [takes, both.2, empty]
        · have named := @CharacterSet.exists_ofName?_iff (Text.upper word)
          cases known : CharacterSet.ofName? (Text.upper word) with
          | none => simp_all
          | some set => simp_all
  · have apart : dialect = .teradata → type ∉ Dialect.characterTypes := by
      simpa [Dialect.takesCharacterSet] using takes
    cases given with
    | none => simp [takes]
    | some word =>
        by_cases teradata : dialect = .teradata
        · subst teradata
          simp [takes, apart]
        · simp [takes, teradata]

/-! ## Lengths -/

theorem exists_lengthFor_iff {type : String} {given : Value} :
    (∃ length, lengthFor type given = .ok length) ↔
      given.IsWritable ∧ ∀ text ∈ given.lengthText?, AdmitsLength text := by
  simp only [lengthFor_eq_ok_iff, exists_and_left]
  refine and_congr_right fun _ => ⟨?_, fun admitted => ?_⟩
  · rintro ⟨length, told⟩ text given
    rw [← told] at given
    obtain ⟨length, -, rfl⟩ := Option.map_eq_some_iff.mp given
    exact length.admits_text
  · cases told : given.lengthText? with
    | none => exact ⟨none, rfl⟩
    | some text => exact ⟨some ⟨text, isLength_iff.mpr (admitted text told)⟩, rfl⟩

/-- A column type without a default breaks a line only in its length. -/
theorem any_isLineBreak_sql {definition : Definition} (plain : definition.default = none) :
    definition.sql.toList.any isLineBreak =
      definition.length.any fun length => length.text.toList.any isLineBreak := by
  have opening : ∀ dialect, (lengthOpening dialect).any isLineBreak = false := by
    intro dialect
    cases dialect <;> decide
  have length : definition.lengthSql.toList.any isLineBreak =
      definition.length.any fun length => length.text.toList.any isLineBreak := by
    rw [toList_lengthSql]
    cases definition.length with
    | none => rfl
    | some length => simp [opening, show isLineBreak ')' = false by decide]
  have null : definition.nullSql.toList.any isLineBreak = false := by
    rw [toList_nullSql]
    split <;> decide
  have default : definition.defaultSql.toList.any isLineBreak = false := by
    rw [toList_defaultSql, plain]
    rfl
  have characterSet : definition.characterSetSql.toList.any isLineBreak = false := by
    rw [toList_characterSetSql]
    rcases definition.characterSet with _ | _ | _ <;> decide
  have clauses : definition.clauseSql.toList.any isLineBreak = false := by
    by_cases exasol : definition.dialect = .exasol
    · simp [toList_clauseSql_of_exasol exasol, List.any_append, null, default, characterSet]
    · simp [toList_clauseSql_of_ne exasol, List.any_append, null, default, characterSet]
  rw [toList_sql, List.any_append, List.any_append, clauses, length, Bool.or_false,
    Dialect.unbroken_of_mem_typeNames definition.type_mem, Bool.false_or]

/-! ## Specifications -/

theorem exists_make_iff {spec : Spec} :
    (∃ definition, make dialect spec = .ok definition) ↔
      Text.capitalWords spec.type ∈ dialect.typeNames ∧
        (spec.length.IsWritable ∧ ∀ text ∈ spec.length.lengthText?, AdmitsLength text) ∧
        dialect.AllowsCharacterSet (Text.capitalWords spec.type) spec.characterSet := by
  rw [← @exists_lengthFor_iff (Text.capitalWords spec.type), ← exists_characterSetFor_iff]
  constructor
  · rintro ⟨definition, made⟩
    obtain ⟨rfl, type, length, -, -, set, chosen, -⟩ := make_eq_ok_iff.mp made
    exact ⟨type ▸ definition.type_mem, ⟨_, length⟩, ⟨_, chosen⟩⟩
  · rintro ⟨known, ⟨length, measured⟩, ⟨set, chosen⟩⟩
    refine ⟨⟨dialect, _, length, spec.nullable, spec.default, set.1, known, set.2⟩, ?_⟩
    exact make_eq_ok_iff.mpr ⟨rfl, rfl, measured, rfl, rfl, set, chosen, rfl⟩

theorem isNumeral_toString (size : Nat) : IsNumeral (toString size).toList := by
  refine ⟨?_, fun c member => ?_⟩
  · rw [Text.toList_toString_nat]
    exact Nat.toDigits_ne_nil
  · simp [Text.isDigit, Text.digitValue?_of_isDigit (Text.isDigit_of_mem_numeral c member)]

theorem lengthText?_numeral (size : Nat) :
    (Value.text (toString size)).lengthText? = some (toString size) := by
  have spaceless : withoutSpaces (toString size) = toString size :=
    withoutSpaces_of_spaceless ((isNumeral_toString size).not_mem (by decide +kernel))
  have present : toString size ≠ "" := fun empty =>
    (isNumeral_toString size).1 (String.toList_eq_nil_iff.mpr empty)
  rw [Value.lengthText?_text (by rwa [spaceless]), spaceless]

/-- Every numeral is a length of a column type, however many digits it has. -/
theorem exists_make_of_numeral {type : String}
    (known : Text.capitalWords type ∈ dialect.typeNames) (size : Nat) :
    ∃ definition, make dialect { type := type, length := .text (toString size) } =
        .ok definition ∧ definition.length.map Length.text = some (toString size) := by
  have admitted : ∀ text ∈ (Value.text (toString size)).lengthText?, AdmitsLength text := by
    rw [lengthText?_numeral]
    rintro _ ⟨⟩
    exact .inl (.single (isNumeral_toString size))
  have unset : dialect.AllowsCharacterSet (Text.capitalWords type) none := by
    simp [Dialect.AllowsCharacterSet]
  let spec : Spec := { type, length := .text (toString size) }
  have accepted : ∃ definition, make dialect spec = .ok definition :=
    exists_make_iff.mpr ⟨known, ⟨Value.isWritable_text (toString size), admitted⟩, unset⟩
  obtain ⟨definition, made⟩ := accepted
  have kept := (lengthFor_eq_ok_iff.mp (make_eq_ok_iff.mp made).2.2.1).2
  exact ⟨definition, made, kept.trans (lengthText?_numeral size)⟩

/-- **What a column type is made from, and the length that it keeps.** The length can be written;
its text without spaces has the form of lengths, up to one last line feed, or nothing is left of
it; this text is kept, and a statement has a line break from a type without a default only if the
text ends with one. -/
theorem make_accepts (dialect : Dialect) (spec : Spec) :
    ((∃ definition, make dialect spec = .ok definition) ↔
      Text.capitalWords spec.type ∈ dialect.typeNames ∧
        (spec.length.IsWritable ∧ ∀ text ∈ spec.length.lengthText?, AdmitsLength text) ∧
        dialect.AllowsCharacterSet (Text.capitalWords spec.type) spec.characterSet) ∧
      ∀ definition, make dialect spec = .ok definition →
        definition.length.map Length.text = spec.length.lengthText? ∧
          (definition.default = none →
            ((∃ c ∈ definition.sql.toList, isLineBreak c = true) ↔
              ∃ text ∈ spec.length.lengthText?, ∃ front, text.toList = front ++ ['\n'])) := by
  refine ⟨exists_make_iff, fun definition made => ?_⟩
  have kept := (lengthFor_eq_ok_iff.mp (make_eq_ok_iff.mp made).2.2.1).2
  refine ⟨kept, fun plain => ?_⟩
  rw [← List.any_eq_true, any_isLineBreak_sql plain, ← kept]
  cases definition.length with
  | none => simp
  | some length => simpa using length.admits_text.breaks_iff

/-- A line feed is no part of a length, but one at the very end of a length is accepted and
reaches the statement. -/
theorem make_accepts_break :
    ¬ LengthForm "10\n".toList ∧
      ∃ definition, make .synapse { type := "VARCHAR", length := .text "10\n" } = .ok definition ∧
        definition.default = none ∧ definition.sql = "VARCHAR(10\n)" := by
  have feed : '\n' ∈ "10\n".toList := by decide
  refine ⟨fun form => form.not_mem (by decide +kernel) feed, ?_⟩
  let length : Length := ⟨"10\n", by decide +kernel⟩
  refine ⟨⟨.synapse, "VARCHAR", some length, true, none, none, by decide, by decide⟩, ?_, rfl, ?_⟩
  · decide +kernel
  · decide +kernel

end Definition

end Warehouse
