import Mathlib.Data.List.Basic
import Mathlib.Data.List.TakeWhile
import Warehouse.Datatype.Length
import Warehouse.Proofs.Text.Case
import Warehouse.Proofs.Text.Separation

/-! # The form of lengths

A length is a numeral, two numerals with a comma between them, or the word MAX, and perhaps a
line feed at its end (`isLength_iff`). So neither a space nor a closing parenthesis nor a minus
is in it. -/

namespace Warehouse

namespace Text

variable {chars : List Char}

/-- A form without line feeds is checked up to one line feed at the very end. -/
theorem withoutFinalBreak_iff {form : List Char → Prop}
    (unbroken : ∀ chars, form chars → '\n' ∉ chars) :
    form (withoutFinalBreak chars) ↔
      form chars ∨ ∃ front, chars = front ++ ['\n'] ∧ form front := by
  unfold withoutFinalBreak
  split
  · rename_i last
    obtain ⟨front, rfl⟩ := List.getLast?_eq_some_iff.mp last
    rw [List.dropLast_concat]
    constructor
    · exact fun formed => .inr ⟨front, rfl, formed⟩
    · rintro (formed | ⟨other, same, formed⟩)
      · exact absurd (by simp) (unbroken _ formed)
      · rwa [(List.append_inj' same rfl).1]
  · rename_i unended
    constructor
    · exact .inl
    · rintro (formed | ⟨front, split, -⟩)
      · exact formed
      · exact absurd (List.getLast?_eq_some_iff.mpr ⟨front, split⟩) unended

end Text

/-- One or more decimal digits of any script. -/
def IsNumeral (chars : List Char) : Prop := chars ≠ [] ∧ ∀ c ∈ chars, Text.isDigit c = true

/-- The characters are those of a length: a numeral, two numerals with a comma between them, or
MAX in any letter case. -/
inductive LengthForm : List Char → Prop where
  | single {digits : List Char} (numeral : IsNumeral digits) : LengthForm digits
  | pair {digits decimals : List Char} (numeral : IsNumeral digits)
      (second : IsNumeral decimals) : LengthForm (digits ++ ',' :: decimals)
  | greatest {word : List Char} (spelled : word.map Char.toLower = ['m', 'a', 'x']) :
      LengthForm word

variable {chars : List Char}

theorem isDigits_iff : Text.isDigits chars = true ↔ IsNumeral chars := by
  simp [Text.isDigits, IsNumeral]

theorem IsNumeral.not_mem {c : Char} (numeral : IsNumeral chars)
    (other : Text.isDigit c = false) : c ∉ chars := by
  intro member
  rw [numeral.2 c member] at other
  cases other

/-- Only the letters themselves stand for those of MAX. -/
theorem isWordCaseless_max_iff :
    Text.isWordCaseless "max" chars = true ↔ chars.map Char.toLower = ['m', 'a', 'x'] := by
  rw [Text.isWordCaseless, decide_eq_true_iff]
  constructor
  · intro word
    rw [← show "max".toList = ['m', 'a', 'x'] from rfl, ← word]
    refine List.map_congr_left fun c member => ?_
    have letter : Text.caseless c ∈ "max".toList := word ▸ List.mem_map_of_mem member
    unfold Text.caseless at letter ⊢
    split_ifs at letter ⊢ <;> first | rfl | exact absurd letter (by decide)
  · exact Text.map_caseless_of_map_toLower (by decide)

theorem isLengthBody_single (free : ',' ∉ chars) :
    isLengthBody chars = (Text.isDigits chars || Text.isWordCaseless "max" chars) := by
  have all : ∀ c ∈ chars, decide (c ≠ ',') = true :=
    fun c member => decide_eq_true fun same => free (same ▸ member)
  rw [isLengthBody, List.dropWhile_eq_nil_iff.mpr all, List.takeWhile_eq_self_iff.mpr all]

theorem isLengthBody_pair {digits : List Char} (free : ',' ∉ digits) (decimals : List Char) :
    isLengthBody (digits ++ ',' :: decimals) =
      (Text.isDigits digits && Text.isDigits decimals) := by
  obtain ⟨front, back⟩ := takeWhile_append_mark free decimals
  rw [isLengthBody, front, back]

theorem isLengthBody_iff : isLengthBody chars = true ↔ LengthForm chars := by
  constructor
  · intro accepted
    by_cases comma : ',' ∈ chars
    · obtain ⟨digits, decimals, rfl, free⟩ := List.eq_append_cons_of_mem comma
      rw [isLengthBody_pair free, Bool.and_eq_true] at accepted
      exact .pair (isDigits_iff.mp accepted.1) (isDigits_iff.mp accepted.2)
    · rw [isLengthBody_single comma, Bool.or_eq_true] at accepted
      rcases accepted with numeral | word
      · exact .single (isDigits_iff.mp numeral)
      · exact .greatest (isWordCaseless_max_iff.mp word)
  · intro form
    cases form with
    | single numeral =>
        rw [isLengthBody_single (numeral.not_mem (by decide)), isDigits_iff.mpr numeral,
          Bool.true_or]
    | pair numeral second =>
        rw [isLengthBody_pair (numeral.not_mem (by decide)), isDigits_iff.mpr numeral,
          isDigits_iff.mpr second, Bool.true_and]
    | greatest spelled =>
        have free : ',' ∉ chars := by
          intro comma
          have small := List.mem_map_of_mem (f := Char.toLower) comma
          rw [spelled] at small
          exact absurd small (by decide)
        rw [isLengthBody_single free, isWordCaseless_max_iff.mpr spelled, Bool.or_true]

/-- The character may stand in the form of a length. -/
def IsLengthChar (c : Char) : Prop :=
  Text.isDigit c = true ∨ c.toLower ∈ ['m', 'a', 'x'] ∨ c = ','

instance : DecidablePred IsLengthChar := fun _ => inferInstanceAs (Decidable (_ ∨ _))

theorem LengthForm.isLengthChar (form : LengthForm chars) : ∀ c ∈ chars, IsLengthChar c := by
  intro c member
  cases form with
  | single numeral => exact .inl (numeral.2 c member)
  | pair numeral second =>
      rcases List.mem_append.mp member with front | back
      · exact .inl (numeral.2 c front)
      · rcases List.mem_cons.mp back with comma | behind
        · exact .inr (.inr comma)
        · exact .inl (second.2 c behind)
  | greatest spelled => exact .inr (.inl (spelled ▸ List.mem_map_of_mem member))

theorem LengthForm.not_mem {c : Char} (form : LengthForm chars) (other : ¬ IsLengthChar c) :
    c ∉ chars := fun member => other (form.isLengthChar c member)

/-- The text has the form of lengths, or has it in front of one last line feed. -/
def AdmitsLength (text : String) : Prop :=
  LengthForm text.toList ∨ ∃ front, text.toList = front ++ ['\n'] ∧ LengthForm front

theorem isLength_iff {text : String} : isLength text = true ↔ AdmitsLength text := by
  rw [isLength, isLengthBody_iff]
  exact Text.withoutFinalBreak_iff fun _ form => form.not_mem (by decide)

theorem AdmitsLength.not_mem {text : String} (admitted : AdmitsLength text) {c : Char}
    (other : ¬ IsLengthChar c) (solid : c ≠ '\n') : c ∉ text.toList := by
  rcases admitted with form | ⟨front, split, form⟩
  · exact form.not_mem other
  · simp [split, form.not_mem other, solid]

namespace Length

variable (length : Length)

theorem admits_text : AdmitsLength length.text := isLength_iff.mp length.accepted

/-- A length does not close parentheses. -/
theorem not_mem_text : ')' ∉ length.text.toList :=
  length.admits_text.not_mem (by decide) (by decide)

/-- A length has no sign. -/
theorem minus_not_mem_text : '-' ∉ length.text.toList :=
  length.admits_text.not_mem (by decide) (by decide)

/-- No space is left in a length. -/
theorem space_not_mem_text : ' ' ∉ length.text.toList :=
  length.admits_text.not_mem (by decide) (by decide)

end Length

theorem withoutSpaces_of_spaceless {text : String} (spaceless : ' ' ∉ text.toList) :
    withoutSpaces text = text := by
  have all : text.toList.filter (· ≠ ' ') = text.toList :=
    List.filter_eq_self.mpr fun c member => decide_eq_true fun space => spaceless (space ▸ member)
  rw [withoutSpaces, all, String.ofList_toList]

end Warehouse
