import Warehouse.Proofs.Text.Case

/-! # Spellings of a text in normal form

A catalog may write the words of a text in any letter case and with any blanks between
them. The normal form of such a spelling is the text itself (`Text.capitalWords_of_spells`),
if the text is of ASCII capitals with single spaces. That spaces are single is checked
character by character, so that texts with parts that are not known can be checked as
well. -/

namespace Warehouse

namespace Text

/-- The characters spell a text: blanks stand for each of its spaces, and a letter in either
ASCII case for each of its letters. -/
inductive Spells : List Char → List Char → Prop where
  | nil : Spells [] []
  | char {c : Char} {written text : List Char} (solid : isBlank c = false)
      (behind : Spells written text) : Spells (c :: written) (c.toUpper :: text)
  | gap {blanks written text : List Char} (present : blanks ≠ [])
      (blank : ∀ c ∈ blanks, isBlank c = true) (behind : Spells written text) :
      Spells (blanks ++ written) (' ' :: text)

/-- A word is spelled by its letters in any case. -/
theorem Spells.word (front : List Char) {written text : List Char}
    (solid : front.any isBlank = false) (behind : Spells written text) :
    Spells (front ++ written) (front.map Char.toUpper ++ text) := by
  induction front with
  | nil => exact behind
  | cons c front ih =>
      rw [List.any_cons, Bool.or_eq_false_iff] at solid
      exact .char solid.1 (ih solid.2)

/-- A space is spelled by blanks. -/
theorem Spells.blanks (blanks : List Char) {written text : List Char}
    (present : blanks.isEmpty = false) (blank : blanks.all isBlank = true)
    (behind : Spells written text) : Spells (blanks ++ written) (' ' :: text) :=
  .gap (List.isEmpty_eq_false_iff.mp present) (List.all_eq_true.mp blank) behind

/-- Characters without lower case ASCII letters and without blanks but spaces spell
themselves. -/
theorem spells_self {chars : List Char}
    (normal : ∀ c ∈ chars, c.toUpper = c ∧ (isBlank c = true → c = ' ')) : Spells chars chars := by
  induction chars with
  | nil => exact .nil
  | cons c rest ih =>
      rw [List.forall_mem_cons] at normal
      obtain ⟨⟨capital, space⟩, behind⟩ := normal
      cases blank : isBlank c with
      | false => simpa only [capital] using Spells.char blank (ih behind)
      | true =>
          obtain rfl := space blank
          exact Spells.blanks [' '] rfl (by decide) (ih behind)

theorem isBlank_toUpper (c : Char) : isBlank c.toUpper = isBlank c := by
  by_cases ascii : c.toNat < 128
  · revert c
    apply forall_ascii
    decide +kernel
  · rw [toUpper_of_not_ascii ascii]

/-! ## Words of a spelling -/

theorem firstWord_blanks {blanks : List Char} (present : blanks ≠ [])
    (blank : ∀ c ∈ blanks, isBlank c = true) (behind : List Char) :
    firstWord (blanks ++ behind) = ([], words behind) := by
  induction blanks with
  | nil => exact absurd rfl present
  | cons c rest ih =>
      rw [List.forall_mem_cons] at blank
      cases rest with
      | nil => simp [firstWord, blank.1, words]
      | cons next rest =>
          have further := ih (by simp) blank.2
          rw [List.cons_append, firstWord, further]
          simp [blank.1]

theorem words_eq_of_firstWord {written text : List Char}
    (same : firstWord text = Prod.map (List.map Char.toUpper) (List.map (List.map Char.toUpper))
      (firstWord written)) :
    words text = (words written).map (List.map Char.toUpper) := by
  unfold words
  rw [same]
  rcases firstWord written with ⟨_ | ⟨c, word⟩, others⟩ <;> simp

theorem firstWord_of_spells {written text : List Char} (spells : Spells written text) :
    firstWord text = Prod.map (List.map Char.toUpper) (List.map (List.map Char.toUpper))
      (firstWord written) := by
  induction spells with
  | nil => rfl
  | @char c _ _ solid _ ih => simp [firstWord, isBlank_toUpper, solid, ih]
  | @gap blanks written text present blank _ ih =>
      have space : isBlank ' ' = true := by decide
      have single := firstWord_blanks (List.cons_ne_nil ' ' []) (by simpa using space) text
      rw [firstWord_blanks present blank, show ' ' :: text = [' '] ++ text from rfl, single,
        words_eq_of_firstWord ih]
      rfl

theorem map_intercalate (change : Char → Char) (separator : List Char) (words : List (List Char)) :
    (separator.intercalate words).map change =
      (separator.map change).intercalate (words.map (List.map change)) := by
  induction words with
  | nil => rfl
  | cons word rest ih =>
      cases rest with
      | nil => simp
      | cons next rest =>
          simp only [List.map_cons, List.intercalate_cons_cons, List.map_append] at ih ⊢
          rw [ih]

theorem map_squeezeChars_of_spells {written text : List Char} (spells : Spells written text) :
    (squeezeChars written).map Char.toUpper = squeezeChars text := by
  rw [squeezeChars, squeezeChars, words_eq_of_firstWord (firstWord_of_spells spells),
    map_intercalate]
  rfl

/-! ## Single spaces -/

/-- The characters are of ASCII, and the blanks among them are single spaces between others.
The flag says that nothing or a space stands in front of the characters. -/
def isSingleSpaced (spaced : Bool) : List Char → Bool
  | [] => !spaced
  | c :: rest =>
      c.toNat < 128 &&
        if isBlank c then c = ' ' && !spaced && isSingleSpaced true rest
        else isSingleSpaced false rest

theorem isSingleSpaced_append {spaced : Bool} {front : List Char}
    (single : isSingleSpaced spaced front = true) (rest : List Char) :
    isSingleSpaced spaced (front ++ rest) = isSingleSpaced false rest := by
  induction front generalizing spaced with
  | nil =>
      have behind : spaced = false := by simpa [isSingleSpaced] using single
      rw [behind, List.nil_append]
  | cons c front ih =>
      rw [isSingleSpaced, Bool.and_eq_true] at single
      obtain ⟨ascii, single⟩ := single
      rw [List.cons_append, isSingleSpaced, ascii, Bool.true_and]
      split
      · rename_i blank
        rw [if_pos blank, Bool.and_eq_true] at single
        rw [single.1, Bool.true_and, ih single.2]
      · rename_i solid
        rw [if_neg solid] at single
        exact ih single

theorem isSingleSpaced_of_solid {chars : List Char}
    (solid : ∀ c ∈ chars, c.toNat < 128 ∧ isBlank c = false) :
    isSingleSpaced false chars = true := by
  induction chars with
  | nil => rfl
  | cons c rest ih =>
      rw [List.forall_mem_cons] at solid
      rw [isSingleSpaced, solid.1.2, decide_eq_true solid.1.1]
      exact ih solid.2

theorem isAscii_of_isSingleSpaced {spaced : Bool} {chars : List Char}
    (single : isSingleSpaced spaced chars = true) :
    chars.all (·.toNat < 128) = true := by
  induction chars generalizing spaced with
  | nil => rfl
  | cons c rest ih =>
      rw [isSingleSpaced, Bool.and_eq_true] at single
      rw [List.all_cons, single.1, Bool.true_and]
      split at single
      · exact ih (Bool.and_eq_true_iff.mp single.2).2
      · exact ih single.2

/-- Characters with single spaces are their first word, followed by the others with a space in
front of each; the first word is there unless something stands in front of it. -/
theorem eq_firstWord_append {spaced : Bool} {chars : List Char}
    (single : isSingleSpaced spaced chars = true) :
    chars = (firstWord chars).1 ++ (firstWord chars).2.flatMap (' ' :: ·) ∧
      (spaced = true → (firstWord chars).1 ≠ []) := by
  induction chars generalizing spaced with
  | nil => simp_all [isSingleSpaced, firstWord]
  | cons c rest ih =>
      rw [isSingleSpaced, Bool.and_eq_true] at single
      replace single := single.2
      rw [firstWord]
      split at single
      · rename_i blank
        simp only [Bool.and_eq_true, decide_eq_true_eq, Bool.not_eq_true'] at single
        obtain ⟨⟨rfl, unspaced⟩, behind⟩ := single
        obtain ⟨whole, present⟩ := ih behind
        have word := present rfl
        constructor
        · simp only [blank, ↓reduceIte, List.isEmpty_eq_false_iff.mpr word, Bool.false_eq_true,
            List.flatMap_cons, List.nil_append, List.cons_append]
          rw [← whole]
        · simp [unspaced]
      · rename_i solid
        obtain ⟨whole, -⟩ := ih single
        simp only [solid, Bool.false_eq_true, ↓reduceIte, List.cons_append]
        exact ⟨congrArg (c :: ·) whole, fun _ => List.cons_ne_nil _ _⟩

theorem intercalate_eq_append_flatMap (word : List Char) (others : List (List Char)) :
    [' '].intercalate (word :: others) = word ++ others.flatMap (' ' :: ·) := by
  induction others generalizing word with
  | nil => simp
  | cons next others ih => simp [List.intercalate_cons_cons, ih]

theorem squeezeChars_of_isSingleSpaced {chars : List Char}
    (single : isSingleSpaced true chars = true) : squeezeChars chars = chars := by
  obtain ⟨whole, present⟩ := eq_firstWord_append single
  have word := List.isEmpty_eq_false_iff.mpr (present rfl)
  rw [squeezeChars, words]
  simp only [word, Bool.false_eq_true, ↓reduceIte, intercalate_eq_append_flatMap]
  exact whole.symm

/-- The normal form of a spelling is the text that is spelled. -/
theorem capitalWords_of_spells {written text : String}
    (spells : Spells written.toList text.toList)
    (single : isSingleSpaced true text.toList = true) : capitalWords written = text := by
  apply upper_eq_of_map_toUpper _ (isAscii_of_isSingleSpaced single)
  rw [toList_squeeze, map_squeezeChars_of_spells spells, squeezeChars_of_isSingleSpaced single]

end Text

theorem Dialect.isSingleSpaced_of_mem_typeNames {dialect : Dialect} {type : String}
    (known : type ∈ dialect.typeNames) : Text.isSingleSpaced true type.toList = true := by
  revert type
  cases dialect <;> decide +kernel

end Warehouse
