import Warehouse.Text.CharacterClass
import Warehouse.Text.Numeral

/-! # Values of cells and log fields

A catalog row holds whatever the driver of a connection made of a cell, and a
log record holds whatever its author put into a field. `Value` covers both.
`Value.asText?` is the text of a value where one is needed; `Value.display?` differs
from it only in that texts are quoted, which is how the items of a list or a map
appear inside its text. A value has a text unless a number in it is too large to be
written. -/

namespace Warehouse

/-- A value of a cell or of a log field. A fractional number is binary with 53
digits and is held by its shortest decimal text. -/
inductive Value where
  | null
  | flag (value : Bool)
  | number (value : Int)
  | fractional (digits : String)
  | text (value : String)
  | list (items : List Value)
  | map (entries : List (String × Value))
deriving Inhabited

namespace Value

mutual

/-- The two values are equal. -/
def same : Value → Value → Bool
  | .null, .null => true
  | .flag first, .flag second => first = second
  | .number first, .number second => first = second
  | .fractional first, .fractional second => first = second
  | .text first, .text second => first = second
  | .list first, .list second => sameItems first second
  | .map first, .map second => sameEntries first second
  | _, _ => false

/-- The two lists have equal items. -/
def sameItems : List Value → List Value → Bool
  | [], [] => true
  | first :: restFirst, second :: restSecond =>
      first.same second && sameItems restFirst restSecond
  | _, _ => false

/-- The two maps have equal entries in the same order. -/
def sameEntries : List (String × Value) → List (String × Value) → Bool
  | [], [] => true
  | (firstKey, first) :: restFirst, (secondKey, second) :: restSecond =>
      firstKey = secondKey && first.same second && sameEntries restFirst restSecond
  | _, _ => false

end

mutual

theorem same_iff : (first second : Value) → (first.same second = true ↔ first = second)
  | .null, second => by cases second <;> simp [same]
  | .flag _, second => by cases second <;> simp [same]
  | .number _, second => by cases second <;> simp [same]
  | .fractional _, second => by cases second <;> simp [same]
  | .text _, second => by cases second <;> simp [same]
  | .list first, second => by cases second <;> simp [same, sameItems_iff first]
  | .map first, second => by cases second <;> simp [same, sameEntries_iff first]

theorem sameItems_iff :
    (first second : List Value) → (sameItems first second = true ↔ first = second)
  | [], second => by cases second <;> simp [sameItems]
  | item :: rest, second => by
      cases second <;> simp [sameItems, same_iff item, sameItems_iff rest]

theorem sameEntries_iff :
    (first second : List (String × Value)) → (sameEntries first second = true ↔ first = second)
  | [], second => by cases second <;> simp [sameEntries]
  | (_, value) :: rest, second => by
      cases second <;>
        simp [sameEntries, same_iff value, sameEntries_iff rest, Prod.ext_iff, and_assoc]

end

instance : DecidableEq Value := fun first second =>
  decidable_of_iff (first.same second = true) (same_iff first second)

end Value

/-- The last hexadecimal digits of a number, as many as are wanted. -/
def hexDigits : Nat → Nat → List Char
  | 0, _ => []
  | width + 1, number => hexDigits width (number / 16) ++ [Nat.digitChar (number % 16)]

/-- The code point of a character that cannot be printed, in the shortest of three
widths. -/
def escapeCode (code : Nat) : List Char :=
  if code < 256 then '\\' :: 'x' :: hexDigits 2 code
  else if code < 65536 then '\\' :: 'u' :: hexDigits 4 code
  else '\\' :: 'U' :: hexDigits 8 code

/-- The escaped form of a character inside single or double quotes. -/
def escapeQuoted (mark : Char) (c : Char) : List Char :=
  if c = mark ∨ c = '\\' then ['\\', c]
  else if c = '\n' then ['\\', 'n']
  else if c = '\r' then ['\\', 'r']
  else if c = '\t' then ['\\', 't']
  else if Text.isPrintable c then [c]
  else escapeCode c.toNat

/-- A text between quotes: single ones, or double ones where these save
escaping a single quote. -/
def quoted (text : String) : String :=
  let chars := text.toList
  let mark := if chars.contains '\'' && !chars.contains '"' then '"' else '\''
  String.ofList (mark :: chars.flatMap (escapeQuoted mark) ++ [mark])

namespace Value

/-- The word for the null value. -/
def nullWord : String := "None"

mutual

/-- The form of a value inside the text of a list or a map, unless some number in it
has too many digits. -/
def display? : Value → Option String
  | .null => some nullWord
  | .flag true => some "True"
  | .flag false => some "False"
  | .number value => Text.ofInteger? value
  | .fractional digits => some digits
  | .text value => some (quoted value)
  | .list items => do return "[" ++ ", ".intercalate (← displayItems? items) ++ "]"
  | .map entries => do
      return "\x7b" ++ ", ".intercalate (← displayEntries? entries) ++ "\x7d"

/-- The items of a list, each in its displayed form. -/
def displayItems? : List Value → Option (List String)
  | [] => some []
  | item :: rest => do return (← item.display?) :: (← displayItems? rest)

/-- The entries of a map, each as a quoted key and a displayed value. -/
def displayEntries? : List (String × Value) → Option (List String)
  | [] => some []
  | (key, value) :: rest => do
      return (quoted key ++ ": " ++ (← value.display?)) :: (← displayEntries? rest)

end

/-- The text of a value, unless some number in it has too many digits. A text is its
own text. -/
def asText? : Value → Option String
  | .text value => some value
  | value => value.display?

/-- An optional number as a value. -/
def ofNumber? : Option Int → Value
  | none => null
  | some count => number count

/-- An optional text as a value. -/
def ofText? : Option String → Value
  | none => null
  | some word => text word

end Value

end Warehouse
