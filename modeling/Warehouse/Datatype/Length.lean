import Warehouse.Text.Blank
import Warehouse.Text.Case
import Warehouse.Text.Digit
import Warehouse.Value

/-! # Lengths

The length of a column type is written in parentheses behind its name: a number,
two numbers with a comma between them, or the word MAX. A length is kept as it
was written, without its spaces. One line feed at the very end is overlooked by
the check and stays in the length. -/

namespace Warehouse

/-- A number, two numbers with a comma between them, or MAX in any letter case. -/
def isLengthBody (chars : List Char) : Bool :=
  let first := chars.takeWhile (· ≠ ',')
  match chars.dropWhile (· ≠ ',') with
  | [] => Text.isDigits first || Text.isWordCaseless "max" first
  | _ :: second => Text.isDigits first && Text.isDigits second

/-- The text is a length. -/
def isLength (text : String) : Bool :=
  isLengthBody (Text.withoutFinalBreak text.toList)

/-- A length as it stands in a statement. -/
structure Length where
  text : String
  accepted : isLength text = true
deriving DecidableEq, Repr

/-- The text without its spaces. Other blanks stay. -/
def withoutSpaces (text : String) : String :=
  String.ofList (text.toList.filter (· ≠ ' '))

/-- What a given value says about a length. A value without a text says nothing, and
one that is refused is refused as it was written. -/
inductive GivenLength where
  | absent
  | accepted (length : Length)
  | refused (written : String)
  | overlong

/-- Reads a length: the null value and a text of nothing but spaces mean that
there is none. -/
def GivenLength.ofValue (given : Value) : GivenLength :=
  match given with
  | .null => .absent
  | _ =>
      match given.asText? with
      | none => .overlong
      | some written =>
          let text := withoutSpaces written
          if text = "" then .absent
          else if accepted : isLength text = true then .accepted ⟨text, accepted⟩
          else .refused written

end Warehouse
