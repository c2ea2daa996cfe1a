import Warehouse.Proofs.Datatype.Making
import Warehouse.Proofs.Text.Condensing

/-! # Respelled specifications

The words of a type name may be written in any letter case with any blanks between and around
them, the word for a character set in any letter case, and a length with spaces anywhere in it.
None of this is left in a column type: it is the one normal form of all spellings of its
specification, itself included (`Definition.make_canonical`). -/

namespace Warehouse

namespace Text

/-! ## Letters and blanks -/

/-- The texts differ at most in the case of ASCII letters. -/
def SameLetters (first second : String) : Prop :=
  first.toList.map Char.toUpper = second.toList.map Char.toUpper

/-- A letter and its capital have one capital form. -/
theorem capitals_toUpper (c : Char) : capitals c.toUpper = capitals c := by
  by_cases ascii : c.toNat < 128
  · have all : ∀ c : Char, c.toNat < 128 → capitals c.toUpper = capitals c := by
      apply forall_ascii
      decide
    exact all c ascii
  · rw [toUpper_of_not_ascii ascii]

theorem SameLetters.upper_eq {first second : String} (same : SameLetters first second) :
    upper first = upper second := by
  have whole : ∀ text : String,
      (upper text).toList = (text.toList.map Char.toUpper).flatMap capitals := by
    intro text
    simp only [toList_upper, List.flatMap_map, capitals_toUpper]
  rw [← String.toList_inj, whole, whole, same]

/-- The characters spell a text, with blanks around the spelling. -/
inductive SpellsWithin (text : List Char) : List Char → Prop where
  | padded {before written behind : List Char} (blank : ∀ c ∈ before, isBlank c = true)
      (trailing : ∀ c ∈ behind, isBlank c = true) (spells : Spells written text) :
      SpellsWithin text (before ++ (written ++ behind))

/-- The texts are spellings of one text: they differ at most in the case of ASCII letters and in
the blanks around and between their words. -/
def Respells (first second : String) : Prop :=
  ∃ text, SpellsWithin text first.toList ∧ SpellsWithin text second.toList

theorem words_append_of_blank {blanks : List Char} (blank : ∀ c ∈ blanks, isBlank c = true)
    (rest : List Char) : words (blanks ++ rest) = words rest := by
  induction blanks with
  | nil => rfl
  | cons c blanks ih =>
      rw [List.forall_mem_cons] at blank
      rw [List.cons_append, (words_blank blank.1 _).1, ih blank.2]

theorem SpellsWithin.map_squeezeChars {text chars : List Char} (spells : SpellsWithin text chars) :
    (squeezeChars chars).map Char.toUpper = squeezeChars text := by
  obtain ⟨blank, trailing, spells⟩ := spells
  rw [squeezeChars, words_append_of_blank blank, words_append_blanks trailing]
  exact map_squeezeChars_of_spells spells

theorem Respells.capitalWords_eq {first second : String} (respells : Respells first second) :
    capitalWords first = capitalWords second := by
  obtain ⟨text, spells, spells'⟩ := respells
  have same : SameLetters (squeeze first) (squeeze second) := by
    rw [SameLetters, toList_squeeze, toList_squeeze, spells.map_squeezeChars,
      spells'.map_squeezeChars]
  exact same.upper_eq

/-- Spaces are added to a text, anywhere in it. -/
inductive AddsSpaces : List Char → List Char → Prop where
  | nil : AddsSpaces [] []
  | char (c : Char) {text written : List Char} (behind : AddsSpaces text written) :
      AddsSpaces (c :: text) (c :: written)
  | space {text written : List Char} (behind : AddsSpaces text written) :
      AddsSpaces text (' ' :: written)

theorem AddsSpaces.filter_eq {text written : List Char} (adds : AddsSpaces text written) :
    written.filter (· ≠ ' ') = text.filter (· ≠ ' ') := by
  induction adds with
  | nil => rfl
  | char c _ ih => rw [List.filter_cons, List.filter_cons, ih]
  | space _ ih => rw [List.filter_cons, if_neg (by decide), ih]

end Text

/-! ## Specifications -/

/-- The length is given in another way: as its text with spaces added to it. -/
inductive Value.RespellsLength (given : Value) : Value → Prop where
  | same : RespellsLength given given
  | spaced {shown written : String} (present : given ≠ .null) (told : given.asText? = some shown)
      (adds : Text.AddsSpaces shown.toList written.toList) : RespellsLength given (.text written)

namespace Value.RespellsLength

variable {given other : Value}

theorem isWritable_iff (respells : given.RespellsLength other) :
    other.IsWritable ↔ given.IsWritable := by
  cases respells with
  | same => rfl
  | spaced _ told =>
      rw [IsWritable, IsWritable, told]
      rfl

theorem lengthText?_eq (respells : given.RespellsLength other) :
    other.lengthText? = given.lengthText? := by
  cases respells with
  | same => rfl
  | @spaced shown written present told adds =>
      have spaceless : withoutSpaces written = withoutSpaces shown := by
        rw [withoutSpaces, withoutSpaces, adds.filter_eq]
      rw [lengthText?, lengthText?, if_neg present, told, Option.map_some, ← spaceless]
      rfl

end Value.RespellsLength

namespace Definition

/-- The specification is given in another spelling. -/
structure Spec.Respells (given other : Spec) : Prop where
  type : Text.Respells given.type other.type
  length : given.length.RespellsLength other.length
  nullable : other.nullable = given.nullable
  default : other.default = given.default
  characterSet : Option.Rel Text.SameLetters given.characterSet other.characterSet

variable {dialect : Dialect}

/-- A character set is chosen by its word in any letter case. -/
theorem characterSetFor_of_sameLetters {type : String} {given other : Option String}
    {set : { set : Option CharacterSet // set.isSome = dialect.takesCharacterSet type }}
    (same : Option.Rel Text.SameLetters given other)
    (chosen : characterSetFor dialect type given = .ok set) :
    characterSetFor dialect type other = .ok set := by
  cases same with
  | none => exact chosen
  | @some first second same =>
      have empty : first = "" ↔ second = "" := by
        rw [← String.toList_eq_nil_iff, ← String.toList_eq_nil_iff, ← List.map_eq_nil_iff,
          show first.toList.map Char.toUpper = second.toList.map Char.toUpper from same,
          List.map_eq_nil_iff]
      unfold characterSetFor at chosen ⊢
      by_cases takes : dialect.takesCharacterSet type = true
      · simp only [takes, ↓reduceDIte, empty, same.upper_eq] at chosen ⊢
        by_cases absent : second = ""
        · simpa only [absent, ↓reduceIte] using chosen
        · simp only [absent, ↓reduceIte] at chosen ⊢
          cases known : CharacterSet.ofName? (Text.upper second) with
          | none => simp only [known, reduceCtorEq] at chosen
          | some named => simpa only [known] using chosen
      · simpa only [takes, Bool.false_eq_true, ↓reduceDIte, Option.isSome_some] using chosen

/-- **A column type is the normal form of its specification.** Its own parts make it once more,
and so does every other spelling of the specification that it was made from. -/
theorem make_canonical {spec : Spec} {definition : Definition}
    (made : make dialect spec = .ok definition) :
    make dialect definition.spec = .ok definition ∧
      ∀ other, spec.Respells other → make dialect other = .ok definition := by
  constructor
  · rw [← dialect_of_make made]
    exact definition.make_spec
  · intro other respells
    have parts := make_eq_ok_iff.mp made
    rw [respells.type.capitalWords_eq, ← respells.nullable, ← respells.default,
      lengthFor_eq_ok_iff, ← respells.length.isWritable_iff, ← respells.length.lengthText?_eq,
      ← lengthFor_eq_ok_iff] at parts
    obtain ⟨own, type, length, nullable, default, set, chosen, kept⟩ := parts
    exact make_eq_ok_iff.mpr ⟨own, type, length, nullable, default, set,
      characterSetFor_of_sameLetters respells.characterSet chosen, kept⟩

/-- A type of two words with a length is made alike from two spellings of it. -/
theorem make_canonical_varying :
    ∃ definition,
      make .exasol { type := "char varying", length := .number 10 } = .ok definition ∧
        make .exasol definition.spec = .ok definition ∧
        make .exasol { type := " Char\t VARYING", length := .text "1 0 " } = .ok definition := by
  let given : Spec := { type := "char varying", length := .number 10 }
  let other : Spec := { type := " Char\t VARYING", length := .text "1 0 " }
  let definition : Definition :=
    ⟨.exasol, "CHAR VARYING", some ⟨"10", by decide⟩, true, none, none, by decide,
      by decide⟩
  have made : make .exasol given = .ok definition := by decide
  have type : Text.Respells given.type other.type := by
    refine ⟨"CHAR VARYING".toList, ?_, ?_⟩
    · rw [show given.type.toList = [] ++ ("char varying".toList ++ []) by decide]
      refine .padded (by simp) (by simp) ?_
      apply Text.Spells.word "char".toList (by decide)
      apply Text.Spells.blanks " ".toList (by decide) (by decide)
      exact Text.Spells.word "varying".toList (by decide) .nil
    · rw [show other.type.toList = [' '] ++ ("Char\t VARYING".toList ++ []) by decide]
      refine .padded (List.forall_mem_singleton.mpr (by decide)) (by simp) ?_
      apply Text.Spells.word "Char".toList (by decide)
      apply Text.Spells.blanks "\t ".toList (by decide) (by decide)
      exact Text.Spells.word "VARYING".toList (by decide) .nil
  have length : given.length.RespellsLength other.length := by
    have shown : given.length.asText? = some (String.ofList ['1', '0']) := by decide
    refine .spaced (by decide) shown ?_
    rw [String.toList_ofList]
    exact .char '1' (.space (.char '0' (.space .nil)))
  have canonical := make_canonical made
  exact ⟨definition, made, canonical.1, canonical.2 other ⟨type, length, rfl, rfl, .none⟩⟩

end Definition

end Warehouse
