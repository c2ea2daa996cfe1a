import Mathlib.Algebra.Order.Field.Rat
import Mathlib.Data.Rat.Floor
import Mathlib.Tactic.Positivity
import Mathlib.Tactic.Ring
import Warehouse.Proofs.Text.Numeral
import Warehouse.Proofs.Text.Separation

/-! # Numbers that decimal numerals denote

A decimal numeral consists of a sign, digits with a point anywhere among them, and an exponent;
only digits have to be there. It denotes a rational number. A cell denotes an integer if its
text, without the padding around it, is a numeral of just this number, and is then read as that
integer (`Value.DenotesInteger.integer?_eq`). Integers and their numerals are among these cells
(`Value.denotesInteger_of_numeral`). -/

namespace Warehouse

namespace Text

/-! ## Digits in front of others -/

theorem foldl_digits (start : Nat) (digits : List Nat) :
    digits.foldl (fun number digit => 10 * number + digit) start =
      start * 10 ^ digits.length + ofDigits digits := by
  induction digits generalizing start with
  | nil => simp [ofDigits]
  | cons digit rest ih =>
      have here := ih (10 * start + digit)
      have alone := ih digit
      simp only [ofDigits, List.foldl_cons, Nat.mul_zero, Nat.zero_add] at here alone ⊢
      rw [here, alone, List.length_cons, Nat.pow_succ]
      ring

theorem ofDigits_append (front back : List Nat) :
    ofDigits (front ++ back) = ofDigits front * 10 ^ back.length + ofDigits back := by
  rw [ofDigits, List.foldl_append, foldl_digits, ← ofDigits]

/-- To drop the last digits is to divide by a power of ten. -/
theorem ofDigits_take {digits : List Nat} (small : ∀ digit ∈ digits, digit < 10) (count : Nat) :
    ofDigits (digits.take (digits.length - count)) = ofDigits digits / 10 ^ count := by
  by_cases many : digits.length ≤ count
  · -- All digits are dropped.
    have below : ofDigits digits < 10 ^ count :=
      Nat.lt_of_lt_of_le (ofDigits_lt small) (Nat.pow_le_pow_right (by decide) many)
    rw [Nat.sub_eq_zero_of_le many, Nat.div_eq_of_lt below]
    rfl
  · have dropped : (digits.drop (digits.length - count)).length = count := by
      rw [List.length_drop]
      omega
    have below : ofDigits (digits.drop (digits.length - count)) < 10 ^ count := by
      have lower := @ofDigits_lt (digits.drop (digits.length - count)) fun digit member =>
        small digit (List.mem_of_mem_drop member)
      rwa [dropped] at lower
    have split := ofDigits_append (digits.take (digits.length - count))
      (digits.drop (digits.length - count))
    rw [List.take_append_drop, dropped] at split
    rw [split, Nat.mul_comm, Nat.mul_add_div (Nat.pow_pos (by decide)), Nat.div_eq_of_lt below,
      Nat.add_zero]

namespace Decimal

/-! ## Numerals -/

/-- A sign, which may be left out. -/
inductive Sign where
  | none
  | plus
  | minus
deriving DecidableEq, Repr

/-- The sign as it is written. -/
def Sign.chars : Sign → List Char
  | none => []
  | plus => ['+']
  | minus => ['-']

/-- The sign is a minus. -/
def Sign.isNegative : Sign → Bool
  | none | plus => false
  | minus => true

/-- An exponent: its letter, a sign and digits. -/
structure Power where
  letter : Char
  sign : Sign
  digits : List Char
  letter_mem : letter ∈ ['e', 'E']
  digits_ne : digits ≠ []
  isDigit : ∀ c ∈ digits, c.isDigit = true

/-- A decimal numeral: a sign, digits, and where a point is written the digits behind it, then
an exponent or none. -/
structure Numeral where
  sign : Sign
  whole : List Char
  fraction : Option (List Char)
  power : Option Power
  digits_ne : whole ++ fraction.getD [] ≠ []
  isDigit : ∀ c ∈ whole ++ fraction.getD [], c.isDigit = true

/-- The values of ASCII digits. -/
def digitValues (chars : List Char) : List Nat := chars.map fun c => c.toNat - 48

/-- The exponent as it is written. -/
def Power.chars (power : Power) : List Char := power.letter :: power.sign.chars ++ power.digits

/-- The exponent as a number. -/
def Power.exponent (power : Power) : Int :=
  withSign power.sign.isNegative (ofDigits (digitValues power.digits))

namespace Numeral

variable (numeral : Numeral)

/-- The point with the digits behind it. -/
def pointChars : List Char := numeral.fraction.elim [] ('.' :: ·)

/-- The numeral as it is written. -/
def chars : List Char :=
  numeral.sign.chars ++ (numeral.whole ++ (numeral.pointChars ++ numeral.power.elim [] Power.chars))

/-- The text of the numeral. -/
def text : String := String.ofList numeral.chars

/-- The digits on both sides of the point. -/
def digits : List Nat := digitValues (numeral.whole ++ numeral.fraction.getD [])

/-- The power of ten that the last digit stands for. -/
def exponent : Int := numeral.power.elim 0 Power.exponent - (numeral.fraction.getD []).length

/-- The number that the numeral denotes. -/
def value : ℚ := (withSign numeral.sign.isNegative (ofDigits numeral.digits) : ℚ) *
  10 ^ numeral.exponent

end Numeral

/-! ## Reading a numeral -/

theorem isDigit_of_ascii {c : Char} (digit : c.isDigit = true) : Text.isDigit c = true := by
  simp [Text.isDigit, digitValue?_of_isDigit digit]

theorem plainChar?_of_isDigit {c : Char} (digit : c.isDigit = true) : plainChar? c = some c := by
  have all : ∀ c : Char, c.toNat < 128 → c.isDigit = true → plainChar? c = some c := by
    apply forall_ascii
    decide
  exact all c (toNat_lt_of_isDigit digit) digit

/-- The characters are not underscores and are spelled in their plain forms. -/
def Plainly (chars plain : List Char) : Prop :=
  (chars.filter (· ≠ '_')).mapM plainChar? = some plain

theorem plainly_of_digits {chars : List Char} (digits : ∀ c ∈ chars, c.isDigit = true) :
    Plainly chars chars := by
  induction chars with
  | nil => rfl
  | cons c rest ih =>
      obtain ⟨here, behind⟩ := List.forall_mem_cons.mp digits
      have other : c ≠ '_' := by
        rintro rfl
        cases here
      have further := ih behind
      rw [Plainly] at further ⊢
      have kept : (c :: rest).filter (· ≠ '_') = c :: rest.filter (· ≠ '_') :=
        List.filter_cons_of_pos (decide_eq_true other)
      rw [kept, List.mapM_cons, plainChar?_of_isDigit here, further]
      rfl

theorem Plainly.append {first second plain others : List Char} (front : Plainly first plain)
    (back : Plainly second others) : Plainly (first ++ second) (plain ++ others) := by
  rw [Plainly] at front back ⊢
  rw [List.filter_append, List.mapM_append, front, back]
  rfl

theorem Sign.plainly (sign : Sign) : Plainly sign.chars sign.chars := by
  unfold Plainly
  cases sign <;> decide

theorem Power.plainly (power : Power) :
    Plainly power.chars ('e' :: power.sign.chars ++ power.digits) := by
  have letters : Plainly ['e'] ['e'] ∧ Plainly ['E'] ['e'] := by
    unfold Plainly
    decide
  have letter : ∀ letter ∈ ['e', 'E'], Plainly [letter] ['e'] :=
    List.forall_mem_cons.mpr ⟨letters.1, List.forall_mem_singleton.mpr letters.2⟩
  exact ((letter _ power.letter_mem).append power.sign.plainly).append
    (plainly_of_digits power.isDigit)

theorem isBlank_of_isDigit {c : Char} (digit : c.isDigit = true) : isBlank c = false := by
  have all : ∀ c : Char, c.toNat < 128 → c.isDigit = true → isBlank c = false := by
    apply forall_ascii
    decide
  exact all c (toNat_lt_of_isDigit digit) digit

theorem Sign.isBlank_of_mem_chars (sign : Sign) : ∀ c ∈ sign.chars, isBlank c = false := by
  cases sign with
  | none => exact List.forall_mem_nil _
  | plus => exact List.forall_mem_singleton.mpr (by decide)
  | minus => exact List.forall_mem_singleton.mpr (by decide)

theorem Power.isBlank_of_mem_chars (power : Power) : ∀ c ∈ power.chars, isBlank c = false := by
  have letters : ∀ letter ∈ ['e', 'E'], isBlank letter = false :=
    List.forall_mem_cons.mpr ⟨by decide, List.forall_mem_singleton.mpr (by decide)⟩
  have behind : ∀ c ∈ power.sign.chars ++ power.digits, isBlank c = false :=
    List.forall_mem_append.mpr ⟨power.sign.isBlank_of_mem_chars,
      fun c member => isBlank_of_isDigit (power.isDigit c member)⟩
  exact List.forall_mem_cons.mpr ⟨letters _ power.letter_mem, behind⟩

theorem natural?_of_digits {chars : List Char} (present : chars ≠ [])
    (digits : ∀ c ∈ chars, c.isDigit = true) :
    natural? chars = some (ofDigits (digitValues chars)) := by
  rw [natural?, List.isEmpty_eq_false_iff.mpr present, mapM_digitValue? digits]
  rfl

/-- A sign is read in front of characters that begin with none. -/
theorem Sign.signed_append (sign : Sign) {rest : List Char}
    (unsigned : ∀ c ∈ rest.head?, c ≠ '-' ∧ c ≠ '+') :
    signed (sign.chars ++ rest) = (sign.isNegative, rest) := by
  cases sign with
  | plus | minus => rfl
  | none =>
      rcases rest with _ | ⟨c, rest⟩
      · rfl
      · obtain ⟨noMinus, noPlus⟩ := unsigned c rfl
        simp [Sign.chars, Sign.isNegative, signed, noMinus, noPlus]

namespace Numeral

variable (numeral : Numeral)

/-- The exponent in its plain form, with a small letter. -/
def plainPower : List Char :=
  numeral.power.elim [] fun power => 'e' :: power.sign.chars ++ power.digits

/-- What is written behind the sign, in its plain form. -/
def plainUnsigned : List Char := numeral.whole ++ (numeral.pointChars ++ numeral.plainPower)

theorem plainly : Plainly numeral.chars (numeral.sign.chars ++ numeral.plainUnsigned) := by
  obtain ⟨whole, fraction⟩ := List.forall_mem_append.mp numeral.isDigit
  have point : Plainly numeral.pointChars numeral.pointChars := by
    unfold pointChars
    cases written : numeral.fraction with
    | none => rfl
    | some digits =>
        rw [written] at fraction
        have mark : Plainly ['.'] ['.'] := by
          unfold Plainly
          decide
        exact mark.append (plainly_of_digits fraction)
  have power : Plainly (numeral.power.elim [] Power.chars) numeral.plainPower := by
    unfold plainPower
    cases numeral.power with
    | none => rfl
    | some power => exact power.plainly
  exact numeral.sign.plainly.append ((plainly_of_digits whole).append (point.append power))

theorem exponent?_plainPower :
    exponent? numeral.plainPower = some (numeral.power.elim 0 Power.exponent) := by
  unfold plainPower
  cases numeral.power with
  | none => rfl
  | some power =>
      have unsigned : ∀ c ∈ power.digits.head?, c ≠ '-' ∧ c ≠ '+' := by
        intro c first
        have digit := power.isDigit c (List.mem_of_mem_head? first)
        constructor <;> rintro rfl <;> cases digit
      simp only [Option.elim_some, List.cons_append, exponent?, ↓reduceIte,
        power.sign.signed_append unsigned, natural?_of_digits power.digits_ne power.isDigit,
        Option.map_some]
      rfl

/-- Neither a point nor an exponent begins with a digit. -/
theorem isDigit_head?_plainPower : ∀ c ∈ numeral.plainPower.head?, Text.isDigit c = false := by
  unfold plainPower
  cases numeral.power with
  | none => simp
  | some power =>
      rintro _ ⟨⟩
      decide

theorem isDigit_head?_pointChars :
    ∀ c ∈ (numeral.pointChars ++ numeral.plainPower).head?, Text.isDigit c = false := by
  unfold pointChars
  cases numeral.fraction with
  | none => exact numeral.isDigit_head?_plainPower
  | some digits =>
      rintro _ ⟨⟩
      decide

/-- Digits, point and exponent are read. -/
theorem unsigned?_eq :
    unsigned? numeral.plainUnsigned = some (numeral.digits, numeral.exponent) := by
  obtain ⟨whole, fraction⟩ := List.forall_mem_append.mp numeral.isDigit
  obtain ⟨taken, left⟩ := takeWhile_append_of_head
    (fun c member => isDigit_of_ascii (whole c member))
    numeral.isDigit_head?_pointChars
  have values := mapM_digitValue? numeral.isDigit
  have power := numeral.exponent?_plainPower
  have present : (numeral.whole.isEmpty && (numeral.fraction.getD []).isEmpty) = false := by
    have some := numeral.digits_ne
    rw [ne_eq, List.append_eq_nil_iff, ← List.isEmpty_iff, ← List.isEmpty_iff,
      ← Bool.and_eq_true, Bool.not_eq_true] at some
    exact some
  unfold plainUnsigned unsigned? digits exponent
  rw [taken, left]
  cases written : numeral.fraction with
  | none =>
      rw [written, Option.getD_none] at values present
      have bare : numeral.pointChars = [] := by rw [pointChars, written]; rfl
      have noPoint : ∀ behind, numeral.plainPower ≠ '.' :: behind := by
        intro behind
        unfold plainPower
        cases numeral.power <;> simp
      rw [bare, List.nil_append, Option.getD_none]
      simp only [present, Bool.false_eq_true, ↓reduceIte, values, power]
      rfl
  | some behind =>
      rw [written] at values present fraction
      have point : numeral.pointChars = '.' :: behind := by rw [pointChars, written]; rfl
      obtain ⟨taken, left⟩ := takeWhile_append_of_head
        (fun c member => isDigit_of_ascii (fraction c member)) numeral.isDigit_head?_plainPower
      rw [Option.getD_some] at values present taken left
      rw [point, List.cons_append]
      simp only [taken, left, present, Bool.false_eq_true, ↓reduceIte, values, power]
      rfl

/-- The letters of the words for infinite and undefined values do not occur in a numeral. -/
theorem not_mem_plainUnsigned : 'n' ∉ numeral.plainUnsigned := by
  have digits : ∀ chars : List Char, (∀ c ∈ chars, c.isDigit = true) → 'n' ∉ chars := by
    intro chars digits member
    cases digits 'n' member
  obtain ⟨whole, fraction⟩ := List.forall_mem_append.mp numeral.isDigit
  have point : 'n' ∉ numeral.pointChars := by
    unfold pointChars
    cases written : numeral.fraction with
    | none => exact List.not_mem_nil
    | some behind =>
        rw [written] at fraction
        exact List.not_mem_cons_of_ne_of_not_mem (by decide) (digits behind fraction)
  have power : 'n' ∉ numeral.plainPower := by
    unfold plainPower
    cases numeral.power with
    | none => exact List.not_mem_nil
    | some power =>
        have sign : 'n' ∉ 'e' :: power.sign.chars := by cases power.sign <;> decide
        exact List.not_mem_append sign (digits power.digits power.isDigit)
  exact List.not_mem_append (digits numeral.whole whole) (List.not_mem_append point power)

theorem unsigned_head? : ∀ c ∈ numeral.plainUnsigned.head?, c ≠ '-' ∧ c ≠ '+' := by
  intro c first
  have known : c.isDigit = true ∨ c = '.' := by
    unfold plainUnsigned at first
    rcases whole : numeral.whole with _ | ⟨digit, rest⟩
    · rw [whole, List.nil_append] at first
      unfold pointChars at first
      cases written : numeral.fraction with
      | none => exact absurd (by rw [whole, written]; rfl) numeral.digits_ne
      | some behind =>
          rw [written] at first
          cases first
          exact .inr rfl
    · rw [whole] at first
      cases first
      exact .inl (numeral.isDigit c (by simp [whole]))
  constructor <;> rintro rfl <;> revert known <;> decide

theorem isUndefined_eq_false {chars : List Char} (free : 'n' ∉ chars) :
    isUndefined chars = false := by
  rw [Bool.eq_false_iff]
  intro undefined
  apply free
  have begins : ∀ tail : List Char, ['n', 'a', 'n'].isPrefixOf tail = true → 'n' ∈ tail :=
    fun tail here => (List.isPrefixOf_iff_prefix.mp here).subset List.mem_cons_self
  unfold isUndefined at undefined
  simp only [Bool.and_eq_true] at undefined
  split at undefined
  · exact List.mem_cons_of_mem _ (begins _ undefined.1)
  · exact begins _ undefined.1

theorem isBlank_of_mem_chars : ∀ c ∈ numeral.chars, isBlank c = false := by
  obtain ⟨whole, fraction⟩ := List.forall_mem_append.mp numeral.isDigit
  have point : ∀ c ∈ numeral.pointChars, isBlank c = false := by
    unfold pointChars
    cases written : numeral.fraction with
    | none => exact List.forall_mem_nil _
    | some behind =>
        rw [written] at fraction
        exact List.forall_mem_cons.mpr
          ⟨by decide, fun c member => isBlank_of_isDigit (fraction c member)⟩
  have power : ∀ c ∈ numeral.power.elim [] Power.chars, isBlank c = false := by
    cases numeral.power with
    | none => exact List.forall_mem_nil _
    | some power => exact power.isBlank_of_mem_chars
  exact List.forall_mem_append.mpr ⟨numeral.sign.isBlank_of_mem_chars,
    List.forall_mem_append.mpr ⟨fun c member => isBlank_of_isDigit (whole c member),
      List.forall_mem_append.mpr ⟨point, power⟩⟩⟩

/-- The text of a numeral is read as this numeral, if it is in range. -/
theorem ofText?_text_eq : ofText? numeral.text =
    if inRange numeral.digits numeral.exponent then
      some (.finite numeral.sign.isNegative numeral.digits numeral.exponent)
    else none := by
  have written : trimChars numeral.text.toList = numeral.chars := by
    rw [text, String.toList_ofList, trimChars_of_no_blank numeral.isBlank_of_mem_chars]
  have finite : ¬ (numeral.plainUnsigned = "inf".toList ∨
      numeral.plainUnsigned = "infinity".toList) := by
    rintro (word | word) <;> exact numeral.not_mem_plainUnsigned (word ▸ by decide)
  rw [ofText?, written, numeral.plainly, Option.bind_eq_bind, Option.bind_some,
    numeral.sign.signed_append numeral.unsigned_head?]
  simp only [Bool.or_eq_true, decide_eq_true_eq, finite,
    isUndefined_eq_false numeral.not_mem_plainUnsigned, ↓reduceIte, numeral.unsigned?_eq,
    Bool.false_eq_true, Option.bind_eq_bind, Option.bind_some]

theorem ofText?_text (range : inRange numeral.digits numeral.exponent = true) :
    ofText? numeral.text =
      some (.finite numeral.sign.isNegative numeral.digits numeral.exponent) := by
  rw [ofText?_text_eq, if_pos range]

theorem ofText?_text_eq_none (beyond : ¬ inRange numeral.digits numeral.exponent = true) :
    ofText? numeral.text = none := by
  rw [ofText?_text_eq, if_neg beyond]

/-! ## Integer parts -/

theorem digits_lt : ∀ digit ∈ numeral.digits, digit < 10 := by
  unfold digits digitValues
  rw [List.forall_mem_map]
  intro c member
  have digit := numeral.isDigit c member
  simp only [Char.isDigit, Bool.and_eq_true, decide_eq_true_eq] at digit
  have upper := UInt32.le_iff_toNat_le.mp digit.2
  change c.toNat ≤ 57 at upper
  omega

end Numeral

/-- The integer part of a number: the next integer on the side of zero. -/
def towardZero (number : ℚ) : ℤ := if number < 0 then ⌈number⌉ else ⌊number⌋

theorem towardZero_intCast (number : ℤ) : towardZero number = number := by
  simp [towardZero]

theorem towardZero_neg (number : ℚ) : towardZero (-number) = -towardZero number := by
  unfold towardZero
  rcases lt_trichotomy number 0 with negative | zero | positive
  · rw [if_neg (by linarith), if_pos negative, Int.floor_neg]
  · simp [zero]
  · rw [if_pos (by linarith), if_neg (by linarith), Int.ceil_neg]

/-- To drop the digits behind the point is to round down. -/
theorem floor_ofDigits {digits : List Nat} (small : ∀ digit ∈ digits, digit < 10)
    (exponent : Int) :
    ⌊(ofDigits digits : ℚ) * 10 ^ exponent⌋ = truncated false digits exponent := by
  by_cases fraction : exponent < 0
  · have scale : (10 : ℚ) ^ exponent = ((10 ^ exponent.natAbs : Nat) : ℚ)⁻¹ := by
      have negated : exponent = -(exponent.natAbs : Int) := by omega
      rw [negated, zpow_neg, zpow_natCast, Int.natAbs_neg, Int.natAbs_natCast, Nat.cast_pow]
      rfl
    rw [truncated, if_pos fraction, ofDigits_take small, scale, ← div_eq_mul_inv,
      Rat.floor_natCast_div_natCast, ← Int.natCast_ediv]
    rfl
  · have natural : exponent = (exponent.natAbs : Int) := by omega
    have whole : (ofDigits digits : ℚ) * 10 ^ exponent =
        ((ofDigits digits * 10 ^ exponent.natAbs : Nat) : ℚ) := by
      rw [natural, zpow_natCast, Int.natAbs_natCast, Nat.cast_mul, Nat.cast_pow]
      rfl
    rw [truncated, if_neg fraction, whole, Int.floor_natCast]
    split
    · rename_i zero
      rw [zero, Nat.zero_mul]
      rfl
    · rfl

/-- A value loses what is behind its point and keeps its integer part. -/
theorem truncated_eq_towardZero {digits : List Nat} (small : ∀ digit ∈ digits, digit < 10)
    (negative : Bool) (exponent : Int) :
    truncated negative digits exponent =
      towardZero ((withSign negative (ofDigits digits) : ℚ) * 10 ^ exponent) := by
  have magnitude : towardZero ((ofDigits digits : ℚ) * 10 ^ exponent) =
      truncated false digits exponent := by
    have above : ¬ (ofDigits digits : ℚ) * 10 ^ exponent < 0 :=
      not_lt.mpr (mul_nonneg (Nat.cast_nonneg _) (zpow_nonneg (by norm_num) _))
    rw [towardZero, if_neg above, floor_ofDigits small]
  cases negative with
  | false =>
      rw [← magnitude]
      simp [withSign]
  | true =>
      have signed : truncated true digits exponent = -truncated false digits exponent := rfl
      rw [signed, ← magnitude, ← towardZero_neg]
      simp [withSign]

end Decimal

end Text

/-! ## Cells -/

namespace Value

open Text.Decimal

/-- The text of the cell, without padding, is a decimal numeral in the range of such numerals
that denotes the integer. -/
def DenotesInteger (cell : Value) (number : Int) : Prop :=
  ∃ numeral : Numeral, cell.trimmed? = .ok (some numeral.text) ∧
    inRange numeral.digits numeral.exponent = true ∧ numeral.value = number

variable {cell : Value} {number : Int}

theorem integer?_of_trimmed? {word : String} (written : cell.trimmed? = .ok (some word)) :
    cell.integer? = (integerOfText word).map some := by
  rw [integer?, written]
  rfl

/-- **A cell that denotes an integer is read as that integer.** -/
theorem DenotesInteger.integer?_eq (denotes : cell.DenotesInteger number) :
    cell.integer? = .ok (some number) := by
  obtain ⟨numeral, written, range, value⟩ := denotes
  have read : integerOfText numeral.text = .ok number := by
    rw [integerOfText, numeral.ofText?_text range]
    simp only [truncated_eq_towardZero numeral.digits_lt]
    rw [← Numeral.value, value, towardZero_intCast]
  rw [integer?_of_trimmed? written, read]
  rfl

end Value

/-! ## Integers as numerals -/

namespace Text.Decimal

/-- The number of digits that a decimal numeral without an exponent may have. -/
def digitLimit : Nat := 1000000000000000000

/-- The numeral that an integer is written with. -/
def Numeral.ofInt (number : Int) : Numeral where
  sign := if number < 0 then .minus else .none
  whole := Nat.toDigits 10 number.natAbs
  fraction := none
  power := none
  digits_ne := by
    rw [Option.getD_none, List.append_nil]
    exact Nat.toDigits_ne_nil
  isDigit := by
    rw [Option.getD_none, List.append_nil]
    exact isDigit_of_mem_toDigits

namespace Numeral

variable (number : Int)

theorem text_ofInt : (ofInt number).text = toString number := by
  rw [← String.toList_inj, toList_toString, text, String.toList_ofList]
  by_cases negative : number < 0 <;>
    simp [chars, ofInt, pointChars, negative, Sign.chars]

theorem digits_ofInt : (ofInt number).digits = digitValues (Nat.toDigits 10 number.natAbs) :=
  congrArg digitValues (List.append_nil _)

theorem exponent_ofInt : (ofInt number).exponent = 0 := rfl

theorem value_ofInt : (ofInt number).value = number := by
  have sign : (ofInt number).sign.isNegative = decide (number < 0) := by
    by_cases negative : number < 0 <;> simp [ofInt, negative, Sign.isNegative]
  rw [value, digits_ofInt, exponent_ofInt, sign, digitValues, ofDigits_toDigits, withSign_natAbs,
    zpow_zero, mul_one]

/-- A numeral whose last digit stands for no fraction denotes an integer. -/
theorem exists_intCast {numeral : Numeral} (whole : 0 ≤ numeral.exponent) :
    ∃ number : Int, numeral.value = number := by
  obtain ⟨power, same⟩ := Int.eq_ofNat_of_zero_le whole
  refine ⟨withSign numeral.sign.isNegative (ofDigits numeral.digits) * 10 ^ power, ?_⟩
  rw [value, same, zpow_natCast]
  push_cast
  rfl

theorem inRange_ofInt {number : Int}
    (short : (Nat.toDigits 10 number.natAbs).length ≤ digitLimit) :
    inRange (ofInt number).digits (ofInt number).exponent = true := by
  have shorter := (@List.dropWhile_suffix _ (ofInt number).digits (· = 0)).length_le
  rw [digits_ofInt, digitValues, List.length_map, ← digitValues, ← digits_ofInt] at shorter
  have small : smallestExponent ≤ 0 := by decide
  rw [exponent_ofInt, inRange]
  simp only [small, decide_true, Bool.true_and, decide_eq_true_eq]
  rw [largestExponent]
  rw [digitLimit] at short
  omega

end Numeral

end Text.Decimal

namespace Value

open Text.Decimal

variable {cell : Value} {number : Int}

/-- The numeral of an integer, padded or not, denotes the integer. -/
theorem denotesInteger_of_numeral (written : cell.trimmed? = .ok (some (toString number)))
    (short : (Nat.toDigits 10 number.natAbs).length ≤ digitLimit) :
    cell.DenotesInteger number := by
  refine ⟨.ofInt number, ?_, Numeral.inRange_ofInt short, Numeral.value_ofInt number⟩
  rw [written, Numeral.text_ofInt]

/-- A cell with the numeral of an integer, padded or not, is read as that integer. -/
theorem integer?_of_numeral (written : cell.trimmed? = .ok (some (toString number)))
    (short : (Nat.toDigits 10 number.natAbs).length ≤ digitLimit) :
    cell.integer? = .ok (some number) :=
  (denotesInteger_of_numeral written short).integer?_eq

/-- A numeral in a cell may be longer than those of integers may be. -/
theorem integer?_leastOverlong :
    (text (toString Text.leastOverlong)).integer? = .ok (some (Text.leastOverlong : Int)) := by
  have limits : Text.integerDigitLimit + 1 ≤ digitLimit := by decide
  have written : (text (toString (Text.leastOverlong : Int))).trimmed? =
      .ok (some (toString (Text.leastOverlong : Int))) := by
    change Except.ok (some (Text.trim _)) = _
    rw [Text.trim_toString]
  exact integer?_of_numeral written (Text.length_toDigits_leastOverlong.trans limits)

end Value

end Warehouse
