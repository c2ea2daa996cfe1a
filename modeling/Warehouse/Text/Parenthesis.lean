/-! # Enclosing parentheses

`stripParentheses` takes off pairs of parentheses as long as the first and the
last character of a text are a pair. All parentheses count, wherever they
stand. -/

namespace Warehouse.Text

/-- Reading on from inside the given number of open parentheses, the place where
the last of them is closed is the end. -/
def closesAtEnd (depth : Nat) : List Char → Bool
  | [] => false
  | c :: rest =>
      if c = '(' then closesAtEnd (depth + 1) rest
      else if c = ')' then
        if depth ≤ 1 then rest.isEmpty else closesAtEnd (depth - 1) rest
      else closesAtEnd depth rest

/-- The first and the last character are a pair of parentheses. -/
def isEnclosed : List Char → Bool
  | '(' :: rest => closesAtEnd 1 rest
  | _ => false

theorem ne_nil_of_isEnclosed {chars : List Char} (enclosed : isEnclosed chars = true) :
    chars ≠ [] := by
  rintro rfl
  simp [isEnclosed] at enclosed

/-- The characters inside all enclosing pairs of parentheses. -/
def stripParentheses (chars : List Char) : List Char :=
  if _enclosed : isEnclosed chars = true then stripParentheses chars.tail.dropLast else chars
termination_by chars.length
decreasing_by
  have := List.length_pos_iff.mpr (ne_nil_of_isEnclosed _enclosed)
  simp only [List.length_dropLast, List.length_tail]
  omega

/-- The text inside all enclosing pairs of parentheses. -/
def withoutEnclosing (text : String) : String :=
  String.ofList (stripParentheses text.toList)

end Warehouse.Text
