import Warehouse.Proofs.Datatype.Length
import Warehouse.Proofs.Dialogue.Computation
import Warehouse.Proofs.Text.Numeral

/-! # The normal form of a specified type

A column type is made from a specification exactly when name, length and character set
are accepted, each by its own rule; the other parts are taken over as they are. What a
column type consists of is itself a specification of it (`Definition.make_spec`). -/

namespace Warehouse

/-- The text of a given length without its spaces, if anything is left of it. -/
def Value.lengthText? (given : Value) : Option String :=
  if given = .null then none else (given.asText?.map withoutSpaces).filter (· ≠ "")

theorem Value.lengthText?_text {text : String} (present : withoutSpaces text ≠ "") :
    (Value.text text).lengthText? = some (withoutSpaces text) := by
  simp [lengthText?, asText?, present]

namespace GivenLength

variable {given : Value} {text written : String}

theorem ofValue_of_present (present : given ≠ .null) :
    ofValue given =
      match given.asText? with
      | none => .overlong
      | some written =>
          let text := withoutSpaces written
          if text = "" then .absent
          else if accepted : isLength text = true then .accepted ⟨text, accepted⟩
          else .refused written := by
  cases given with
  | null => exact absurd rfl present
  | flag _ | number _ | fractional _ | text _ | list _ | map _ => rfl

theorem ofValue_of_absent (writable : given.IsWritable) (absent : given.lengthText? = none) :
    ofValue given = .absent := by
  by_cases present : given = .null
  · rw [present]
    rfl
  obtain ⟨written, shown⟩ := Option.isSome_iff_exists.mp writable
  rw [Value.lengthText?, if_neg present, shown, Option.map_some, Option.filter_eq_none_iff] at absent
  have empty : withoutSpaces written = "" := by simpa using absent
  rw [ofValue_of_present present, shown]
  simp only [empty, ↓reduceIte]

theorem ofValue_of_text (shown : given.asText? = some written)
    (told : given.lengthText? = some text) :
    ofValue given =
      if accepted : isLength text = true then .accepted ⟨text, accepted⟩ else .refused written := by
  have present : given ≠ .null := by
    rintro rfl
    cases told
  rw [Value.lengthText?, if_neg present, shown, Option.map_some] at told
  obtain ⟨same, left⟩ := Option.filter_eq_some_iff.mp told
  cases same
  rw [ofValue_of_present present, shown]
  exact if_neg (of_decide_eq_true left)

theorem ofValue_of_overlong (overlong : ¬ given.IsWritable) : ofValue given = .overlong := by
  have present : given ≠ .null := by
    rintro rfl
    exact overlong rfl
  have without : given.asText? = none := Option.not_isSome_iff_eq_none.mp overlong
  rw [ofValue_of_present present, without]

end GivenLength

/-- A length keeps its own text. -/
theorem Length.lengthText?_ofText? (length : Option Length) :
    (Value.ofText? (length.map Length.text)).lengthText? = length.map Length.text := by
  cases length with
  | none => rfl
  | some length =>
      have present : length.text ≠ "" := by
        intro empty
        have accepted := length.accepted
        rw [empty] at accepted
        revert accepted
        decide
      have whole := withoutSpaces_of_spaceless length.space_not_mem_text
      rw [← whole] at present
      change (Value.text length.text).lengthText? = some length.text
      rw [Value.lengthText?_text present, whole]

namespace Definition

open Warehouse.Computation

theorem ext_of_parts {first second : Definition} (dialects : first.dialect = second.dialect)
    (types : first.type = second.type) (lengths : first.length = second.length)
    (nullables : first.nullable = second.nullable) (defaults : first.default = second.default)
    (sets : first.characterSet = second.characterSet) : first = second := by
  cases first
  cases second
  cases dialects
  cases types
  cases lengths
  cases nullables
  cases defaults
  cases sets
  rfl

/-- Exactly one column type is made from an accepted specification. -/
theorem make_eq_ok_iff {dialect : Dialect} {spec : Spec} {definition : Definition} :
    make dialect spec = .ok definition ↔
      definition.dialect = dialect ∧ definition.type = Text.capitalWords spec.type ∧
        lengthFor (Text.capitalWords spec.type) spec.length = .ok definition.length ∧
        definition.nullable = spec.nullable ∧ definition.default = spec.default ∧
        ∃ set, characterSetFor dialect (Text.capitalWords spec.type) spec.characterSet = .ok set ∧
          definition.characterSet = set.1 := by
  unfold make
  by_cases known : Text.capitalWords spec.type ∈ dialect.typeNames
  · simp only [known, ↓reduceDIte, bind_eq_ok_iff, pure_eq_ok_iff]
    constructor
    · rintro ⟨length, measured, set, chosen, rfl⟩
      exact ⟨rfl, rfl, measured, rfl, rfl, set, chosen, rfl⟩
    · rintro ⟨sameDialect, sameType, measured, sameNullable, sameDefault, set, chosen, sameSet⟩
      refine ⟨definition.length, measured, set, chosen, ?_⟩
      exact ext_of_parts sameDialect.symm sameType.symm rfl sameNullable.symm sameDefault.symm
        sameSet.symm
  · simp only [known, ↓reduceDIte, reduceCtorEq, false_iff]
    rintro ⟨sameDialect, sameType, -⟩
    exact known (sameType ▸ sameDialect ▸ definition.type_mem)

/-- A type that the dialect does not know is reported before anything else is looked at. -/
theorem make_of_unknown {dialect : Dialect} {type : String} {length : Value} {nullable : Bool}
    {default characterSet : Option String} (unknown : Text.capitalWords type ∉ dialect.typeNames) :
    make dialect { type, length, nullable, default, characterSet } =
      .error (.unknownType type dialect) := dif_neg unknown

theorem dialect_of_make {dialect : Dialect} {spec : Spec} {definition : Definition}
    (made : make dialect spec = .ok definition) : definition.dialect = dialect :=
  (make_eq_ok_iff.mp made).1

/-- The length of a type is what is given for it without its spaces. -/
theorem lengthFor_eq_ok_iff {type : String} {given : Value} {length : Option Length} :
    lengthFor type given = .ok length ↔
      given.IsWritable ∧ length.map Length.text = given.lengthText? := by
  unfold lengthFor
  by_cases writable : given.IsWritable
  · rw [and_iff_right writable]
    cases told : given.lengthText? with
    | none =>
        rw [GivenLength.ofValue_of_absent writable told, Option.map_eq_none_iff, Except.ok.injEq]
        exact eq_comm
    | some text =>
        obtain ⟨written, shown⟩ := Option.isSome_iff_exists.mp writable
        rw [GivenLength.ofValue_of_text shown told]
        split_ifs with accepted
        · rw [Except.ok.injEq]
          constructor
          · rintro rfl
            rfl
          · intro same
            obtain ⟨length, rfl, rfl⟩ := Option.map_eq_some_iff.mp same
            rfl
        · simp only [false_iff]
          intro same
          obtain ⟨length, rfl, rfl⟩ := Option.map_eq_some_iff.mp same
          exact accepted length.accepted
  · simp [GivenLength.ofValue_of_overlong writable, writable]

theorem isWritable_ofText? (word : Option String) : (Value.ofText? word).IsWritable := by
  cases word <;> rfl

theorem characterSetFor_name {dialect : Dialect} {type : String} {set : Option CharacterSet}
    (takes : set.isSome = dialect.takesCharacterSet type) :
    characterSetFor dialect type (set.map CharacterSet.name) = .ok ⟨set, takes⟩ := by
  unfold characterSetFor
  cases set with
  | none =>
      have without : dialect.takesCharacterSet type ≠ true := by simp [← takes]
      simp [without]
  | some set =>
      have known : CharacterSet.ofName? (Text.upper set.name) = some set := by
        cases set <;> decide
      have present : set.name ≠ "" := by cases set <;> decide
      simp [← takes, known, present]

/-- A text type has the character set that it is given, and Unicode if it is given none. -/
theorem characterSetFor_eq_ok {dialect : Dialect} {type : String} {given : Option CharacterSet}
    {chosen : { set : Option CharacterSet // set.isSome = dialect.takesCharacterSet type }}
    (takes : dialect.takesCharacterSet type = true)
    (accepted : characterSetFor dialect type (given.map CharacterSet.name) = .ok chosen) :
    chosen.1 = some (given.getD .unicode) := by
  cases given with
  | none =>
      simp only [characterSetFor, takes, ↓reduceDIte, Option.map_none, Except.ok.injEq] at accepted
      rw [← accepted]
      rfl
  | some set =>
      rw [@characterSetFor_name dialect type (some set) takes.symm] at accepted
      cases accepted
      rfl

/-- The parts of a column type, as somebody may specify it by them. -/
def spec (definition : Definition) : Spec where
  type := definition.type
  length := .ofText? (definition.length.map Length.text)
  nullable := definition.nullable
  default := definition.default
  characterSet := definition.characterSet.map CharacterSet.name

/-- The name of a type is in its normal form. -/
theorem capitalWords_type (definition : Definition) :
    Text.capitalWords definition.type = definition.type :=
  Text.capitalWords_of_isNormal (Dialect.isNormal_of_mem_typeNames definition.type_mem)

/-- The parts of a column type, given once more, make the same type. -/
theorem make_spec (definition : Definition) :
    make definition.dialect definition.spec = .ok definition := by
  have takes : definition.characterSet.isSome =
      definition.dialect.takesCharacterSet (Text.capitalWords definition.type) := by
    rw [capitalWords_type]
    exact definition.characterSet_isSome
  exact make_eq_ok_iff.mpr ⟨rfl, definition.capitalWords_type.symm,
    lengthFor_eq_ok_iff.mpr ⟨isWritable_ofText? _, (Length.lengthText?_ofText? _).symm⟩, rfl,
    rfl, _,
    characterSetFor_name takes, rfl⟩

/-- Only types of Teradata have a character set. -/
theorem characterSet_eq_none {definition : Definition} (plain : definition.dialect ≠ .teradata) :
    definition.characterSet = none := by
  rw [← Option.not_isSome_iff_eq_none, definition.characterSet_isSome]
  simp [Dialect.takesCharacterSet, plain]

/-- Where character sets are none of the dialect's business, none is given. -/
theorem make_of_parts {definition : Definition} (plain : definition.dialect ≠ .teradata) :
    make definition.dialect {
      type := definition.type, length := .ofText? (definition.length.map Length.text)
      nullable := definition.nullable, default := definition.default } = .ok definition := by
  have made := definition.make_spec
  rwa [spec, characterSet_eq_none plain] at made

end Definition

end Warehouse
