import Warehouse.Proofs.Text.DecimalNumeral

/-! # Cells with decimal numerals

A cell with a decimal numeral, padded or not, is read as the integer part of the number that the
numeral denotes, whatever the place of its point and its exponent
(`Value.integer?_of_decimal`). Numerals have a range, though: the last digit must not stand for
too small a power of ten and the number must not be too large, or the cell is refused, even if
the integer part is small (`Value.integer?_minute`). -/

namespace Warehouse

namespace Text

/-! ## Padding -/

theorem dropWhile_isBlank {before inner : List Char} (blank : ∀ c ∈ before, isBlank c = true)
    (solid : ∀ c ∈ inner, isBlank c = false) (present : inner ≠ []) (rest : List Char) :
    (before ++ (inner ++ rest)).dropWhile isBlank = inner ++ rest := by
  obtain ⟨first, others, rfl⟩ := List.exists_cons_of_ne_nil present
  rw [List.dropWhile_append_of_pos blank, List.cons_append, List.dropWhile_cons_of_neg]
  simp [solid first List.mem_cons_self]

/-- Blanks on both sides are taken off. -/
theorem trimChars_padded {before inner behind : List Char}
    (blank : ∀ c ∈ before ++ behind, isBlank c = true) (solid : ∀ c ∈ inner, isBlank c = false)
    (present : inner ≠ []) : trimChars (before ++ (inner ++ behind)) = inner := by
  obtain ⟨leading, trailing⟩ := List.forall_mem_append.mp blank
  have reversed := @dropWhile_isBlank behind.reverse inner.reverse
    (by simpa using trailing) (by simpa using solid) (by simpa using present) []
  rw [List.append_nil] at reversed
  rw [trimChars, dropWhile_isBlank leading solid present, List.reverse_append, reversed,
    List.reverse_reverse]

/-! ## The size of digits -/

theorem ofDigits_dropZeros (digits : List Nat) :
    ofDigits (digits.dropWhile (· = 0)) = ofDigits digits := by
  induction digits with
  | nil => rfl
  | cons digit rest ih =>
      by_cases zero : digit = 0
      · subst zero
        exact ih
      · rw [List.dropWhile_cons_of_neg (by simpa using zero)]

/-- The first digit, unless it is zero, tells how large a number is at least. -/
theorem pow_le_ofDigits {digit : Nat} (positive : digit ≠ 0) (rest : List Nat) :
    10 ^ rest.length ≤ ofDigits (digit :: rest) := by
  have split := ofDigits_append [digit] rest
  have single : ofDigits [digit] = digit := by simp [ofDigits]
  rw [List.singleton_append, single] at split
  have least := Nat.le_mul_of_pos_left (10 ^ rest.length) (Nat.pos_of_ne_zero positive)
  omega

namespace Decimal.Numeral

/-! ## The range of numerals -/

/-- The numeral is in the range of decimal numerals: the power of ten that its last digit stands
for is not too small, and the number not too large. A zero has no size, so there the power must
not be too large itself. -/
structure IsRepresentable (numeral : Numeral) : Prop where
  fine : smallestExponent ≤ numeral.exponent
  bounded : |numeral.value| < 10 ^ (largestExponent + 1)
  zero_raised : numeral.value = 0 → numeral.exponent ≤ largestExponent

variable (numeral : Numeral)

theorem value_eq_zero_iff : numeral.value = 0 ↔ ofDigits numeral.digits = 0 := by
  have power : (10 : ℚ) ^ numeral.exponent ≠ 0 := zpow_ne_zero _ (by norm_num)
  rw [value, mul_eq_zero, or_iff_left power]
  cases numeral.sign.isNegative <;> simp [withSign]

theorem abs_value : |numeral.value| = (ofDigits numeral.digits : ℚ) * 10 ^ numeral.exponent := by
  have power : (0 : ℚ) ≤ 10 ^ numeral.exponent := zpow_nonneg (by norm_num) _
  rw [value, abs_mul, abs_of_nonneg power]
  cases numeral.sign.isNegative <;> simp [withSign]

section

variable {numeral} {first : Nat} {rest : List Nat}
  (stripped : numeral.digits.dropWhile (· = 0) = first :: rest)

include stripped

theorem first_ne_zero : first ≠ 0 := by
  have head := List.head_dropWhile_not (p := (· = 0)) (l := numeral.digits) (by simp [stripped])
  simpa [stripped] using head

theorem pow_le_abs_value : (10 : ℚ) ^ (numeral.exponent + rest.length) ≤ |numeral.value| := by
  have same := ofDigits_dropZeros numeral.digits
  rw [stripped] at same
  rw [abs_value, ← same, add_comm, zpow_add₀ (by norm_num), zpow_natCast]
  exact mul_le_mul_of_nonneg_right (mod_cast pow_le_ofDigits (first_ne_zero stripped) rest)
    (zpow_nonneg (by norm_num) _)

theorem abs_value_lt_pow : |numeral.value| < (10 : ℚ) ^ (numeral.exponent + rest.length + 1) := by
  have same := ofDigits_dropZeros numeral.digits
  have small : ∀ digit ∈ first :: rest, digit < 10 := fun digit member =>
    numeral.digits_lt digit ((List.dropWhile_sublist _).subset (stripped ▸ member))
  have exponents : numeral.exponent + rest.length + 1 =
      ((rest.length + 1 : Nat) : ℤ) + numeral.exponent := by
    push_cast
    ring
  rw [stripped] at same
  rw [abs_value, ← same, exponents, zpow_add₀ (by norm_num), zpow_natCast]
  exact mul_lt_mul_of_pos_right (mod_cast ofDigits_lt small) (zpow_pos (by norm_num) _)

/-- Without its leading zeros a number is as large as the number of its digits tells. -/
theorem abs_value_lt_pow_iff {power : ℤ} :
    |numeral.value| < 10 ^ (power + 1) ↔ numeral.exponent + rest.length ≤ power := by
  constructor
  · intro bounded
    have below := (zpow_lt_zpow_iff_right₀ (by norm_num : (1 : ℚ) < 10)).mp
      ((pow_le_abs_value stripped).trans_lt bounded)
    omega
  · intro raised
    exact (abs_value_lt_pow stripped).trans_le (zpow_le_zpow_right₀ (by norm_num) (by omega))

theorem value_ne_zero : numeral.value ≠ 0 := by
  rw [← abs_pos]
  exact (zpow_pos (by norm_num) _).trans_le (pow_le_abs_value stripped)

end

theorem isRepresentable_iff :
    inRange numeral.digits numeral.exponent = true ↔ numeral.IsRepresentable := by
  rw [inRange, Bool.and_eq_true, decide_eq_true_eq, decide_eq_true_eq]
  rcases stripped : numeral.digits.dropWhile (· = 0) with _ | ⟨first, rest⟩
  · have zero : numeral.value = 0 := by
      rw [value_eq_zero_iff, ← ofDigits_dropZeros, stripped]
      rfl
    have bounded : |numeral.value| < 10 ^ (largestExponent + 1) := by
      rw [zero, abs_zero]
      exact zpow_pos (by norm_num) _
    have counted : numeral.exponent + (([] : List Nat).length - 1 : Nat) = numeral.exponent :=
      Int.add_zero _
    rw [stripped, counted]
    constructor
    · rintro ⟨fine, raised⟩
      exact ⟨fine, bounded, fun _ => raised⟩
    · rintro ⟨fine, -, raised⟩
      exact ⟨fine, raised zero⟩
  · have counted : ((first :: rest).length - 1 : Nat) = rest.length := rfl
    rw [stripped, counted, ← abs_value_lt_pow_iff stripped]
    constructor
    · rintro ⟨fine, bounded⟩
      exact ⟨fine, bounded, fun zero => absurd zero (value_ne_zero stripped)⟩
    · rintro ⟨fine, bounded, -⟩
      exact ⟨fine, bounded⟩

/-! ## Integers with zeros behind a point -/

/-- The numeral of an integer, with a point and zeros behind it if a number of these is given. -/
def ofIntWithZeros (number : Int) (zeros : Option Nat) : Numeral where
  sign := (ofInt number).sign
  whole := (ofInt number).whole
  fraction := zeros.map (List.replicate · '0')
  power := none
  digits_ne := List.append_ne_nil_of_left_ne_nil Nat.toDigits_ne_nil _
  isDigit := by
    refine List.forall_mem_append.mpr ⟨isDigit_of_mem_toDigits, ?_⟩
    cases zeros with
    | none => exact List.forall_mem_nil _
    | some count =>
        intro c member
        rw [List.eq_of_mem_replicate member]
        rfl

variable (number : Int) (zeros : Option Nat)

theorem chars_ofIntWithZeros : (ofIntWithZeros number zeros).chars =
    (toString number).toList ++ zeros.elim [] ('.' :: List.replicate · '0') := by
  have bare : (toString number).toList = (ofInt number).chars := by
    rw [← text_ofInt, text, String.toList_ofList]
  rw [bare]
  cases zeros <;> simp [chars, ofIntWithZeros, pointChars, ofInt]

theorem exponent_ofIntWithZeros :
    (ofIntWithZeros number zeros).exponent = -(zeros.getD 0 : Nat) := by
  cases zeros <;> simp [exponent, ofIntWithZeros]

theorem value_ofIntWithZeros : (ofIntWithZeros number zeros).value = number := by
  have zeroDigits : ∀ count, ofDigits (List.replicate count 0) = 0 := by
    intro count
    induction count with
    | zero => rfl
    | succ count ih => exact ih
  have digits : ofDigits (ofIntWithZeros number zeros).digits =
      ofDigits (ofInt number).digits * 10 ^ zeros.getD 0 := by
    cases zeros with
    | none => exact (Nat.mul_one _).symm
    | some count =>
        have split : (ofIntWithZeros number (some count)).digits =
            (ofInt number).digits ++ List.replicate count 0 := by
          simp [Numeral.digits, ofIntWithZeros, ofInt, digitValues]
        rw [split, ofDigits_append, zeroDigits, List.length_replicate, Nat.add_zero]
        rfl
  have sign : (ofIntWithZeros number zeros).sign = (ofInt number).sign := rfl
  have whole := value_ofInt number
  rw [value, exponent_ofInt, zpow_zero, mul_one] at whole
  rw [value, exponent_ofIntWithZeros, digits, sign, ← whole]
  cases (ofInt number).sign.isNegative <;> simp [withSign]

/-- The digits and zeros of an integer are in the range of numerals if the integer is not too
large and has not too many zeros behind its point. -/
theorem isRepresentable_ofIntWithZeros {number : Int} {zeros : Option Nat}
    (bounded : |(number : ℚ)| < 10 ^ (largestExponent + 1))
    (fine : smallestExponent ≤ -(zeros.getD 0 : Nat)) :
    (ofIntWithZeros number zeros).IsRepresentable := by
  have raised : (0 : ℤ) ≤ largestExponent := by decide
  refine ⟨?_, ?_, fun _ => ?_⟩
  · rwa [exponent_ofIntWithZeros]
  · rwa [value_ofIntWithZeros]
  · rw [exponent_ofIntWithZeros]
    omega

theorem chars_ne_nil (numeral : Numeral) : numeral.chars ≠ [] := by
  intro empty
  apply numeral.digits_ne
  simp only [chars, List.append_eq_nil_iff] at empty
  obtain ⟨-, whole, point, -⟩ := empty
  rw [whole, List.nil_append]
  cases written : numeral.fraction with
  | none => rfl
  | some digits =>
      rw [pointChars, written] at point
      cases point

/-! ## Two numerals -/

/-- The numeral -12.75e1. -/
def shifted : Numeral where
  sign := .minus
  whole := ['1', '2']
  fraction := some ['7', '5']
  power := some ⟨'e', .none, ['1'], by decide, by decide, List.forall_mem_singleton.mpr rfl⟩
  digits_ne := by decide
  isDigit := by simp [Char.isDigit]

/-- The numeral 1e-2000000000000000000. -/
def minute : Numeral where
  sign := .none
  whole := ['1']
  fraction := none
  power := some ⟨'e', .minus, "2000000000000000000".toList, by decide, by decide,
    List.all_eq_true.mp (by decide)⟩
  digits_ne := by decide
  isDigit := List.forall_mem_singleton.mpr rfl

end Decimal.Numeral

end Text

/-! ## Reading cells -/

namespace Value

open Text Text.Decimal

variable {before behind : List Char}

theorem trimmed?_of_padded (numeral : Numeral)
    (blank : ∀ c ∈ before ++ behind, isBlank c = true) :
    (text (String.ofList (before ++ (numeral.chars ++ behind)))).trimmed? =
      .ok (some numeral.text) := by
  change Except.ok (some (trim (String.ofList _))) = _
  rw [trim, String.toList_ofList, trimChars_padded blank numeral.isBlank_of_mem_chars
    numeral.chars_ne_nil, Numeral.text]

/-- **Decimal cells are read as integer parts.** A cell with a decimal numeral in the range of
numerals, padded or not, is read as the integer part of the number which it denotes; the cell of
an integer with zeros behind a point or without a point is read as that integer. Numerals beyond
the range are refused. -/
theorem integer?_of_decimal (blank : ∀ c ∈ before ++ behind, isBlank c = true) :
    (∀ numeral : Numeral,
      let cell := text (String.ofList (before ++ (numeral.chars ++ behind)))
      (numeral.IsRepresentable → cell.integer? = .ok (some (towardZero numeral.value))) ∧
      (¬ numeral.IsRepresentable → cell.integer? = .error .notDecimal)) ∧
    ∀ (number : Int) (zeros : Option Nat), |(number : ℚ)| < 10 ^ (largestExponent + 1) →
      smallestExponent ≤ -(zeros.getD 0 : Nat) →
      (text (String.ofList (before ++ ((toString number).toList ++
        zeros.elim [] ('.' :: List.replicate · '0') ++ behind)))).integer? =
          .ok (some number) := by
  have read : ∀ numeral : Numeral, numeral.IsRepresentable →
      (text (String.ofList (before ++ (numeral.chars ++ behind)))).integer? =
        .ok (some (towardZero numeral.value)) := by
    intro numeral representable
    simp only [integer?_of_trimmed? (trimmed?_of_padded numeral blank), integerOfText,
      numeral.ofText?_text (numeral.isRepresentable_iff.mpr representable),
      truncated_eq_towardZero numeral.digits_lt]
    rfl
  refine ⟨fun numeral => ⟨read numeral, ?_⟩, ?_⟩
  · intro beyond
    simp only [integer?_of_trimmed? (trimmed?_of_padded numeral blank), integerOfText,
      numeral.ofText?_text_eq_none (mt numeral.isRepresentable_iff.mp beyond)]
    rfl
  · intro number zeros bounded fine
    have whole := read _ (Numeral.isRepresentable_ofIntWithZeros bounded fine)
    rwa [Numeral.chars_ofIntWithZeros, Numeral.value_ofIntWithZeros, towardZero_intCast] at whole

/-- A fraction that an exponent shifts is cut off on the side of zero, and an integer is read in
front of zeros. -/
theorem integer?_of_decimal_shifted :
    Numeral.shifted.text = "-12.75e1" ∧ (∀ c ∈ ['\t'] ++ [' '], isBlank c = true) ∧
      Numeral.shifted.IsRepresentable ∧ Numeral.shifted.value = -127.5 ∧
      (text "\t-12.75e1 ").integer? = .ok (some (-127)) ∧
      (text "\t-40.000 ").integer? = .ok (some (-40)) := by
  have blank : ∀ c ∈ ['\t'] ++ [' '], isBlank c = true := List.all_eq_true.mp (by decide)
  have representable : Numeral.shifted.IsRepresentable :=
    Numeral.shifted.isRepresentable_iff.mp (by decide)
  have value : Numeral.shifted.value = -127.5 := by
    have digits : ofDigits Numeral.shifted.digits = 1275 := by decide
    have exponent : Numeral.shifted.exponent = -1 := by decide
    rw [Numeral.value, digits, exponent]
    norm_num [Numeral.shifted, Sign.isNegative, withSign]
  have cut : towardZero Numeral.shifted.value = -127 := by
    rw [Numeral.value, ← truncated_eq_towardZero Numeral.shifted.digits_lt]
    decide
  have read := ((integer?_of_decimal blank).1 Numeral.shifted).1 representable
  have whole := (integer?_of_decimal blank).2 (-40) (some 3)
    (lt_of_lt_of_le (by norm_num) (zpow_le_zpow_right₀ (by norm_num)
      (show (2 : ℤ) ≤ largestExponent + 1 by decide))) (by decide)
  rw [cut] at read
  exact ⟨by decide, blank, representable, value, read, whole⟩

/-- The integer part of a number that is close enough to zero is zero, but its numeral is
refused. -/
theorem integer?_minute :
    Numeral.minute.text = "1e-2000000000000000000" ∧ towardZero Numeral.minute.value = 0 ∧
      (text "1e-2000000000000000000").integer? = .error .notDecimal := by
  refine ⟨by decide, ?_, by decide⟩
  rw [Numeral.value, ← truncated_eq_towardZero Numeral.minute.digits_lt]
  decide

end Value

end Warehouse
