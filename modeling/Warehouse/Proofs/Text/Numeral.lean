import Mathlib.Data.List.TakeWhile
import Warehouse.Catalog.Cell
import Warehouse.Proofs.Text.Case
import Warehouse.Proofs.Text.Digit

/-! # Numerals of numbers

The decimal numeral of an integer is an optional dash and ASCII digits, without blanks
around it. Where the number of digits is limited, integers from `Text.leastOverlong` on have
no numeral (`Text.ofInteger?_eq_some_iff`), and digits that are too many are not read as an
integer (`Text.integer?_of_natural?`). -/

namespace Warehouse

namespace Text

/-! ## The characters of a numeral -/

theorem toNat_lt_of_isDigit {c : Char} (digit : c.isDigit = true) : c.toNat < 128 := by
  simp only [Char.isDigit, Bool.and_eq_true, decide_eq_true_eq] at digit
  have upper := UInt32.le_iff_toNat_le.mp digit.2
  exact Nat.lt_of_le_of_lt upper (by decide)

theorem toList_toString (number : Int) :
    (toString number).toList =
      if number < 0 then '-' :: Nat.toDigits 10 number.natAbs else Nat.toDigits 10 number.natAbs := by
  rw [Int.toString_eq_repr, Int.repr_eq_if]
  by_cases negative : number < 0
  · have magnitude : (-number).toNat = number.natAbs := by omega
    have below : ¬ 0 ≤ number := by omega
    simp [negative, below, magnitude]
  · have magnitude : number.toNat = number.natAbs := by omega
    have above : 0 ≤ number := by omega
    simp [negative, above, magnitude]

/-- The characters of a numeral are digits, behind a dash if the number is negative. -/
theorem isDigit_of_mem_toString {number : Int} {c : Char}
    (member : c ∈ (toString number).toList) : c.isDigit = true ∨ c = '-' := by
  have digits : ∀ c ∈ Nat.toDigits 10 number.natAbs, c.isDigit = true := fun c digit =>
    Nat.isDigit_of_mem_toDigits (by decide) (by decide) digit
  rw [toList_toString] at member
  split at member
  · rcases List.mem_cons.mp member with dash | digit
    · exact .inr dash
    · exact .inl (digits c digit)
  · exact .inl (digits c member)

theorem toString_ne_empty (number : Int) : toString number ≠ "" := by
  rw [Int.toString_eq_repr, Int.repr_eq_if]
  split <;> simp

/-- A character of a numeral is neither a blank nor an underscore, and it is spelled as it
stands. -/
theorem plain_of_mem_toString {number : Int} {c : Char}
    (member : c ∈ (toString number).toList) :
    isBlank c = false ∧ c ≠ '_' ∧ c ≠ ' ' ∧ Decimal.plainChar? c = some c := by
  have ascii : c.toNat < 128 := by
    rcases isDigit_of_mem_toString member with digit | rfl
    · exact toNat_lt_of_isDigit digit
    · decide
  have all : ∀ c : Char, c.toNat < 128 → c.isDigit = true ∨ c = '-' →
      isBlank c = false ∧ c ≠ '_' ∧ c ≠ ' ' ∧ Decimal.plainChar? c = some c := by
    apply forall_ascii
    decide
  exact all c ascii (isDigit_of_mem_toString member)

theorem toList_toString_nat (number : Nat) : (toString number).toList = Nat.toDigits 10 number := by
  rw [Nat.toString_eq_repr]
  simp

theorem isDigit_of_mem_numeral {number : Nat} :
    ∀ c ∈ (toString number).toList, c.isDigit = true := by
  intro c member
  rw [toList_toString_nat] at member
  exact Nat.isDigit_of_mem_toDigits (by decide) (by decide) member

/-! ## Texts without blanks -/

theorem trimChars_of_no_blank {chars : List Char} (plain : ∀ c ∈ chars, isBlank c = false) :
    trimChars chars = chars := by
  have front : chars.dropWhile isBlank = chars := by
    cases chars with
    | nil => rfl
    | cons c rest => simp [plain c List.mem_cons_self]
  have back : chars.reverse.dropWhile isBlank = chars.reverse := by
    rcases reversed : chars.reverse with _ | ⟨c, rest⟩
    · rfl
    · have member : c ∈ chars := List.mem_reverse.mp (reversed ▸ List.mem_cons_self)
      simp [plain c member]
  rw [trimChars, front, back, List.reverse_reverse]

theorem trim_toString (number : Int) : trim (toString number) = toString number := by
  rw [trim, trimChars_of_no_blank fun c member => (plain_of_mem_toString member).1,
    String.ofList_toList]

/-! ## Digits -/

theorem digitValue?_of_isDigit {c : Char} (digit : c.isDigit = true) :
    digitValue? c = some (c.toNat - 48) := by
  rw [digitValue?_of_ascii (toNat_lt_of_isDigit digit), if_pos digit]

theorem mapM_digitValue? {chars : List Char} (digits : ∀ c ∈ chars, c.isDigit = true) :
    chars.mapM digitValue? = some (chars.map fun c => c.toNat - 48) := by
  induction chars with
  | nil => rfl
  | cons c rest ih =>
      rw [List.forall_mem_cons] at digits
      simp [List.mapM_cons, digitValue?_of_isDigit digits.1, ih digits.2]

theorem ofDigits_toDigits (number : Nat) :
    ofDigits ((Nat.toDigits 10 number).map fun c => c.toNat - 48) = number := by
  have same := @Nat.ofDigitChars_ten_toDigits number
  rw [Nat.ofDigitChars_eq_foldl] at same
  rw [ofDigits, List.foldl_map]
  exact same

/-- Different numbers have different numerals. -/
theorem numeral_inj {first second : Nat} : toString first = toString second ↔ first = second := by
  refine ⟨fun same => ?_, congrArg toString⟩
  have digits : Nat.toDigits 10 first = Nat.toDigits 10 second := by
    rw [← toList_toString_nat, ← toList_toString_nat, same]
  rw [← ofDigits_toDigits first, ← ofDigits_toDigits second, digits]

theorem natural?_toString (number : Nat) : natural? (toString number).toList = some number := by
  have present : (toString number).toList.isEmpty = false := by
    rw [toList_toString_nat]
    exact List.isEmpty_eq_false_iff.mpr Nat.toDigits_ne_nil
  rw [natural?, present, mapM_digitValue? isDigit_of_mem_numeral, toList_toString_nat]
  simp only [Bool.false_eq_true, ↓reduceIte, Option.map_some, ofDigits_toDigits]

/-! ## Sign and digits -/

theorem isDigit_of_mem_toDigits {number : Nat} :
    ∀ c ∈ Nat.toDigits 10 number, c.isDigit = true := fun _ member =>
  Nat.isDigit_of_mem_toDigits (by decide) (by decide) member

theorem withSign_natAbs (number : Int) :
    withSign (decide (number < 0)) number.natAbs = number := by
  unfold withSign
  by_cases negative : number < 0
  · rw [if_pos (decide_eq_true negative)]
    omega
  · rw [if_neg (by simpa using negative)]
    omega

/-! ## The limit -/

/-- The least natural number with more digits than an integer numeral may have. -/
def leastOverlong : Nat := 10 ^ integerDigitLimit

theorem leastOverlong_pos : 0 < leastOverlong := Nat.pow_pos (by decide)

theorem length_toDigits_le_iff {number : Nat} :
    (Nat.toDigits 10 number).length ≤ integerDigitLimit ↔ number < leastOverlong :=
  Nat.length_toDigits_le_iff (by decide) (by decide)

theorem length_toDigits_leastOverlong :
    (Nat.toDigits 10 leastOverlong).length ≤ integerDigitLimit + 1 :=
  (Nat.length_toDigits_le_iff (by decide) (Nat.succ_pos _)).mpr
    (Nat.pow_lt_pow_right (by decide) (Nat.lt_succ_self integerDigitLimit))

theorem lt_leastOverlong_of_natural? {digits : List Char} {size : Nat}
    (numeral : natural? digits = some size) (short : digits.length ≤ integerDigitLimit) :
    size < leastOverlong :=
  (natural?_lt numeral).trans_le (Nat.pow_le_pow_right (by decide) short)

-- no step of a proof is to compute this power
attribute [irreducible] leastOverlong

theorem ofInteger?_eq_some_iff {number : Int} {text : String} :
    ofInteger? number = some text ↔ number.natAbs < leastOverlong ∧ toString number = text := by
  simp only [ofInteger?, length_toDigits_le_iff]
  split <;> simp [*]

theorem ofInteger?_natCast_eq_some_iff {number : Nat} {text : String} :
    ofInteger? number = some text ↔ number < leastOverlong ∧ toString number = text :=
  ofInteger?_eq_some_iff

theorem ofInteger?_eq_none_iff {number : Int} :
    ofInteger? number = none ↔ leastOverlong ≤ number.natAbs := by
  simp only [ofInteger?, length_toDigits_le_iff]
  split <;> simp <;> omega

theorem length_toString_le_iff {number : Nat} :
    (toString number).toList.length ≤ integerDigitLimit ↔ number < leastOverlong := by
  rw [toList_toString_nat, length_toDigits_le_iff]

/-- Digits of any script are read as an integer unless they are too many. -/
theorem integer?_of_natural? {digits : List Char} {size : Nat}
    (numeral : natural? digits = some size) :
    integer? (String.ofList digits) =
      if digits.length ≤ integerDigitLimit then some (size : Int) else none := by
  obtain ⟨present, values, told, rfl⟩ := exists_values_of_natural? numeral
  obtain ⟨solid, length, -⟩ := values_of_mapM_digitValue? told
  have plain : trimChars digits = digits :=
    trimChars_of_no_blank fun c member => (plain_of_digit (solid c member)).1
  have unsigned : signed digits = (false, digits) := by
    obtain ⟨first, rest, rfl⟩ := List.exists_cons_of_ne_nil present
    obtain ⟨-, noMinus, noPlus, -⟩ := plain_of_digit (solid first List.mem_cons_self)
    simp [signed, noMinus, noPlus]
  have grouped := groupedDigits?_of_digits present solid
  simp only [integer?, String.toList_ofList, plain, unsigned, grouped, told,
    Option.bind_eq_bind, Option.bind_some, length]
  rfl

end Text

/-! ## Values with a text -/

namespace Value

variable {value : Value} {number : Int} {word : String}

/-- The value has a text: no number in it has too many digits. -/
def IsWritable (value : Value) : Prop := value.asText?.isSome = true

instance (value : Value) : Decidable value.IsWritable :=
  inferInstanceAs (Decidable (value.asText?.isSome = true))

theorem asText_eq_ok_iff : value.asText = .ok word ↔ value.asText? = some word := by
  unfold asText
  cases value.asText? <;> simp

theorem isWritable_text (word : String) : (text word).IsWritable := rfl

theorem asText_number_eq_ok_iff :
    (Value.number number).asText = .ok word ↔ Text.ofInteger? number = some word :=
  asText_eq_ok_iff

theorem asText_number (short : number.natAbs < Text.leastOverlong) :
    (Value.number number).asText = .ok (toString number) :=
  asText_number_eq_ok_iff.mpr (Text.ofInteger?_eq_some_iff.mpr ⟨short, rfl⟩)

theorem eq_toString_of_asText (written : (Value.number number).asText = .ok word) :
    word = toString number :=
  (Text.ofInteger?_eq_some_iff.mp (asText_number_eq_ok_iff.mp written)).2.symm

theorem asText_number_eq_error (overlong : Text.leastOverlong ≤ number.natAbs) :
    (Value.number number).asText = .error .overlongNumber := by
  simp only [asText, asText?, display?, Text.ofInteger?_eq_none_iff.mpr overlong]

theorem asText_leastOverlong :
    (Value.number Text.leastOverlong).asText = .error .overlongNumber :=
  asText_number_eq_error (Int.natAbs_natCast _).ge

theorem exists_text?_of_isWritable (writable : value.IsWritable) :
    ∃ told, value.text? = .ok told := by
  obtain ⟨word, shown⟩ := Option.isSome_iff_exists.mp writable
  cases value with
  | null => exact ⟨none, rfl⟩
  | flag _ | number _ | fractional _ | text _ | list _ | map _ =>
      exact ⟨some word, by simp only [text?, asText_eq_ok_iff.mpr shown, Except.map]⟩

theorem exists_trimmed?_of_isWritable (writable : value.IsWritable) :
    ∃ told, value.trimmed? = .ok told := by
  obtain ⟨told, shown⟩ := exists_text?_of_isWritable writable
  exact ⟨told.map Text.trim, by rw [trimmed?, shown, Except.map]⟩

theorem exists_isTrue_of_isWritable (writable : value.IsWritable) :
    ∃ truth, value.isTrue = .ok truth := by
  obtain ⟨told, shown⟩ := exists_trimmed?_of_isWritable writable
  cases value with
  | flag truth => exact ⟨truth, rfl⟩
  | null | number _ | fractional _ | text _ | list _ | map _ =>
      simp only [isTrue, shown, Except.map, Except.ok.injEq, exists_eq']

theorem trimmed?_of_present (present : value ≠ null) :
    value.trimmed? = value.asText.map (some ∘ Text.trim) := by
  cases value with
  | null => exact absurd rfl present
  | flag _ | number _ | fractional _ | text _ | list _ | map _ =>
      simp only [trimmed?, text?]
      cases asText _ <;> rfl

theorem trimmed?_number (short : number.natAbs < Text.leastOverlong) :
    (Value.number number).trimmed? = .ok (some (toString number)) := by
  have present : Value.number number ≠ null := by simp
  rw [trimmed?_of_present present, asText_number short, Except.map, Function.comp_apply,
    Text.trim_toString]

theorem trimmed?_leastOverlong :
    (Value.number Text.leastOverlong).trimmed? = .error .overlongNumber := by
  have present : Value.number Text.leastOverlong ≠ null := by simp
  rw [trimmed?_of_present present, asText_leastOverlong, Except.map]

end Value

end Warehouse
