import Mathlib.Data.Nat.Digits.Lemmas
import Warehouse.Text.Blank
import Warehouse.Text.Numeral

/-! # Digits of all scripts

The digits of every script stand for numbers below ten, and no digit is taken for a blank, a
sign or an underscore. So a number that is written by digits alone is bounded by their number
(`Text.natural?_lt`). -/

namespace Warehouse.Text

/-- A digit is less than ten and stands that far behind the zero of its script. -/
theorem exists_start_of_digitValue? {c : Char} {value : Nat} (told : digitValue? c = some value) :
    value < 10 ∧ ∃ start ∈ 48 :: digitZeros, c.toNat = start + value := by
  unfold digitValue? at told
  split at told
  · split at told
    · rename_i digit
      cases told
      simp only [Char.isDigit, Bool.and_eq_true, decide_eq_true_eq, UInt32.le_iff_toNat_le] at digit
      have low : 48 ≤ c.toNat := digit.1
      have high : c.toNat ≤ 57 := digit.2
      exact ⟨by omega, 48, List.mem_cons_self, by omega⟩
    · cases told
  · obtain ⟨start, known, told⟩ := List.exists_of_findSome?_eq_some told
    split at told
    · cases told
      exact ⟨by omega, start, List.mem_cons_of_mem _ known, by omega⟩
    · cases told

theorem plain_of_digit {c : Char} (digit : isDigit c = true) :
    isBlank c = false ∧ c ≠ '-' ∧ c ≠ '+' ∧ c ≠ '_' := by
  have all : ∀ start ∈ 48 :: digitZeros, ∀ value < 10,
      let c := Char.ofNat (start + value)
      isBlank c = false ∧ c ≠ '-' ∧ c ≠ '+' ∧ c ≠ '_' := by decide +kernel
  obtain ⟨value, told⟩ := Option.isSome_iff_exists.mp digit
  obtain ⟨small, start, known, code⟩ := exists_start_of_digitValue? told
  have here := all start known value small
  rwa [← code, Char.ofNat_toNat] at here

/-- Where underscores may stand between digits, digits alone are read one by one. -/
theorem groupedDigits?_of_digits {chars : List Char} (present : chars ≠ [])
    (digits : ∀ c ∈ chars, isDigit c = true) : groupedDigits? chars = chars.mapM digitValue? := by
  induction chars with
  | nil => exact absurd rfl present
  | cons c rest ih =>
      rw [List.forall_mem_cons] at digits
      cases rest with
      | nil => cases told : digitValue? c <;> simp [groupedDigits?, told]
      | cons next rest =>
          have other := (plain_of_digit (digits.2 next List.mem_cons_self)).2.2.2
          have behind := ih (by simp) digits.2
          rw [List.mapM_cons, groupedDigits?, behind]
          exact other

theorem values_of_mapM_digitValue? {chars : List Char} {values : List Nat}
    (told : chars.mapM digitValue? = some values) :
    (∀ c ∈ chars, isDigit c = true) ∧ values.length = chars.length ∧ ∀ value ∈ values, value < 10 := by
  induction chars generalizing values with
  | nil =>
      cases told
      exact ⟨List.forall_mem_nil _, rfl, List.forall_mem_nil _⟩
  | cons c rest ih =>
      rw [List.mapM_cons] at told
      obtain ⟨value, here, told⟩ := Option.bind_eq_some_iff.mp told
      obtain ⟨others, behind, same⟩ := Option.bind_eq_some_iff.mp told
      cases same
      obtain ⟨digits, length, small⟩ := ih behind
      have digit : isDigit c = true := by rw [isDigit, here, Option.isSome_some]
      exact ⟨List.forall_mem_cons.mpr ⟨digit, digits⟩, congrArg (· + 1) length,
        List.forall_mem_cons.mpr ⟨(exists_start_of_digitValue? here).1, small⟩⟩

/-! ## Natural numbers -/

theorem ofDigits_lt {digits : List Nat} (small : ∀ digit ∈ digits, digit < 10) :
    ofDigits digits < 10 ^ digits.length := by
  have same : ofDigits digits = Nat.ofDigits 10 digits.reverse := by
    rw [Nat.ofDigits_eq_foldr, List.foldr_reverse]
    simp only [ofDigits, Nat.cast_id, Nat.add_comm]
  rw [same, ← List.length_reverse]
  exact Nat.ofDigits_lt_base_pow_length (by decide) fun digit member =>
    small digit (List.mem_reverse.mp member)

variable {chars : List Char} {number : Nat}

theorem exists_values_of_natural? (numeral : natural? chars = some number) :
    chars ≠ [] ∧ ∃ values, chars.mapM digitValue? = some values ∧ ofDigits values = number := by
  unfold natural? at numeral
  split at numeral
  · cases numeral
  · rename_i present
    exact ⟨fun nothing => present (List.isEmpty_iff.mpr nothing), Option.map_eq_some_iff.mp numeral⟩

theorem isDigit_of_natural? (numeral : natural? chars = some number) :
    ∀ c ∈ chars, isDigit c = true := by
  obtain ⟨-, values, told, -⟩ := exists_values_of_natural? numeral
  exact (values_of_mapM_digitValue? told).1

theorem exists_natural?_of_digits (present : chars ≠ [])
    (digits : ∀ c ∈ chars, isDigit c = true) : ∃ number, natural? chars = some number := by
  have values : ∃ values, chars.mapM digitValue? = some values := by
    clear present
    induction chars with
    | nil => exact ⟨[], rfl⟩
    | cons c rest ih =>
        rw [List.forall_mem_cons] at digits
        obtain ⟨value, here⟩ := Option.isSome_iff_exists.mp digits.1
        obtain ⟨others, behind⟩ := ih digits.2
        exact ⟨value :: others, by simp [List.mapM_cons, here, behind]⟩
  obtain ⟨values, told⟩ := values
  exact ⟨ofDigits values, by simp [natural?, present, told]⟩

theorem natural?_lt (numeral : natural? chars = some number) : number < 10 ^ chars.length := by
  obtain ⟨-, values, told, rfl⟩ := exists_values_of_natural? numeral
  obtain ⟨-, length, small⟩ := values_of_mapM_digitValue? told
  rw [← length]
  exact ofDigits_lt small

end Warehouse.Text
