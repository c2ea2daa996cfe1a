import Warehouse.Text.Case
import Warehouse.Text.Digit
import Warehouse.Catalog.Cell

/-! # Written column types of Exasol

Exasol reports a column type as one text: the type name, a parameter in
parentheses, and for texts the character set. The parameter becomes the length,
where a size in bytes or bits becomes a number of bytes. A type in whose middle
there are parameters, such as an interval, has no length; its name is what is
left without them. -/

namespace Warehouse.Catalog.Exasol

/-- The name of a column type with its length. -/
structure WrittenType where
  type : String
  length : Option String
deriving DecidableEq, Repr

/-- Spaces and a character set. -/
def isCharacterSet (chars : List Char) : Bool :=
  chars.head? = some ' ' &&
    ["UTF8".toList, "ASCII".toList].contains (chars.dropWhile (· = ' '))

/-- What may follow a type name: a parameter, a character set, both or nothing.
Gives the parameter. -/
def parameter? (chars : List Char) : Option (Option (List Char)) :=
  match chars.dropWhile (· = ' ') with
  | [] => some none
  | '(' :: behind =>
      match behind.dropWhile (· ≠ ')') with
      | _ :: rest =>
          if rest.isEmpty || isCharacterSet rest then some (some (behind.takeWhile (· ≠ ')')))
          else none
      | [] => none
  | _ => if isCharacterSet chars then some none else none

/-- A character of a type name behind the first: a capital, a digit or a space. -/
def isTypeChar (c : Char) : Bool := c.isUpper || c.isDigit || c = ' '

/-- The shortest beginning of the characters behind which only a parameter and a
character set follow, and the parameter. -/
def splitName? (chars : List Char) : Option (List Char × Option (List Char)) :=
  match parameter? chars, chars with
  | some parameter, _ => some ([], parameter)
  | none, [] => none
  | none, c :: rest =>
      if isTypeChar c then (splitName? rest).map fun (name, parameter) => (c :: name, parameter)
      else none

/-- A type name, which begins with a capital, and its parameter. -/
def splitType? : List Char → Option (List Char × Option (List Char))
  | [] => none
  | c :: rest =>
      if c.isUpper then (splitName? rest).map fun (name, parameter) => (c :: name, parameter)
      else none

/-- The characters without parameters: from an opening parenthesis on nothing is
kept up to the next closing one, if there is one. The flag says that a parameter
has begun. -/
def withoutParameters (inside : Bool) : List Char → List Char
  | [] => []
  | c :: rest =>
      if inside then withoutParameters (c ≠ ')') rest
      else if c = '(' ∧ ')' ∈ rest then withoutParameters true rest
      else c :: withoutParameters false rest

/-- The number that the digits of a size are the numeral of. -/
def sizeOfDigits (digits : List Char) : Except CellFault Int :=
  match Text.integer? (String.ofList digits) with
  | some size => .ok size
  | none => .error .notInteger

/-- A number of bytes or bits as a number of bytes; other parameters stand for
themselves. -/
def lengthOfParameter (parameter : List Char) : Except CellFault String := do
  let digits := parameter.takeWhile Text.isDigit
  let unit := parameter.dropWhile Text.isDigit
  if digits.isEmpty then return String.ofList parameter
  else if unit = " BYTE".toList then (Value.number (← sizeOfDigits digits)).asText
  else if unit = " BIT".toList then (Value.number (Int.fdiv (← sizeOfDigits digits) 8)).asText
  else return String.ofList parameter

/-- The length that a parameter stands for; without a parameter there is none. -/
def lengthOf? : Option (List Char) → Except CellFault (Option String)
  | none => .ok none
  | some parameter => (lengthOfParameter parameter).map some

/-- The type name and the length in a written column type. -/
def WrittenType.ofText (written : String) : Except CellFault WrittenType :=
  let chars := (Text.capitalWords written).toList
  match splitType? chars with
  | some (name, parameter) => (lengthOf? parameter).map (⟨String.ofList name, ·⟩)
  | none => .ok ⟨String.ofList (Text.squeezeChars (withoutParameters false chars)), none⟩

/-- The type in a cell, which must not be null. -/
def WrittenType.ofCell (cell : Value) : Except CellFault WrittenType := do
  match ← cell.text? with
  | some written => ofText written
  | none => throw .absentText

end Warehouse.Catalog.Exasol
