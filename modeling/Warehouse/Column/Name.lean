import Warehouse.Text.Numeral
import Warehouse.Value

/-! # Names of columns

A column is named by a text as a rule. A catalog, however, delivers names as
cells, and one whose cells are passed on as they come may deliver any value for a
name. Such a name can be read and compared, but nothing is written with it:
requests refuse names that are not texts. Names are compared as they stand, letter
case included, numbers by what they amount to and flags as the numbers one and
zero. -/

namespace Warehouse

/-- The nearest number of at most 53 binary digits; of two equally near ones the
one whose last digit is even. -/
def nearestBinary (number : Nat) : Nat :=
  let unit := Nat.pow 2 (number.log2 - 52)
  let below := number / unit
  let rest := number % unit
  if 2 * rest < unit ∨ (2 * rest = unit ∧ below % 2 = 0) then below * unit
  else (below + 1) * unit

namespace Value

/-- The text that a value is, if it is one. -/
def word? : Value → Option String
  | text word => some word
  | _ => none

/-- The text of a name. Requests refuse a name that is no text before they mention or
write it, so such a name has nothing to write. -/
def wording (name : Value) : String := name.word?.getD ""

/-- The value is a list or a map. -/
def isStructured : Value → Bool
  | list _ | map _ => true
  | null | flag _ | number _ | fractional _ | text _ => false

/-- The integer that a fractional number with the given text is, if it has no
fraction. -/
def wholeOfFractional? (digits : String) : Option Int :=
  match Text.Decimal.ofText? digits with
  | some (.finite negative digits exponent) =>
      (Text.Decimal.whole? digits exponent).map fun magnitude =>
        Text.withSign negative (nearestBinary magnitude)
  | _ => none

/-- The form in which a name is compared with others. -/
def comparable : Value → Value
  | flag true => number 1
  | flag false => number 0
  | fractional digits =>
      match wholeOfFractional? digits with
      | some whole => number whole
      | none => fractional digits
  | value => value

/-- The value is no name: it is null, or a number, a flag, a text, a list or a map
with nothing to it. -/
def isVoid : Value → Bool
  | null => true
  | flag given => !given
  | number given => given = 0
  | fractional digits => wholeOfFractional? digits = some 0
  | text word => word = ""
  | list items => items.isEmpty
  | map entries => entries.isEmpty

theorem word?_eq_some_iff {name : Value} {word : String} :
    name.word? = some word ↔ name = text word := by
  cases name <;> simp [word?]

/-- A text is compared with other texts only. -/
theorem comparable_eq_text_iff {name : Value} {word : String} :
    name.comparable = text word ↔ name = text word := by
  cases name with
  | flag given => cases given <;> simp [comparable]
  | fractional digits =>
      simp only [comparable]
      split <;> simp
  | null | number _ | text _ | list _ | map _ => simp [comparable]

@[simp] theorem comparable_text (word : String) : (text word).comparable = text word := rfl

end Value

end Warehouse
