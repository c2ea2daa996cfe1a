import Warehouse.Proofs.Sql.Lexing
import Warehouse.Proofs.Text.Stripping

/-! # Parentheses of expressions

To an engine an expression consists of single characters and of literals in quotes, and the
parentheses in a literal are characters like others. Taking off enclosing parentheses counts
them all. The two agree on expressions whose literals are balanced each by itself
(`withoutEnclosing_reading`), and may disagree on others (`withoutEnclosing_literal`). -/

namespace Warehouse.Text

/-! ## Reading expressions -/

/-- A part of an expression: a character outside of literals, or a literal with its value. -/
inductive Lexeme where
  | plain (c : Char)
  | literal (value : List Char)
deriving DecidableEq

namespace Lexeme

/-- The part as it is written: a quote in a literal is doubled. -/
def written : Lexeme → List Char
  | plain c => [c]
  | literal value => '\'' :: (escaped '\'' none value ++ ['\''])

/-- The character that the part is, if it is one. -/
def char? : Lexeme → Option Char
  | plain c => some c
  | literal _ => none

end Lexeme

/-- The parts of an expression, unless a literal in it has no end. -/
def lexemes : List Char → Option (List Lexeme)
  | [] => some []
  | c :: rest =>
      if c = '\'' then
        match _read : readQuoted '\'' none rest with
        | none => none
        | some (value, behind) => (lexemes behind).map (.literal value :: ·)
      else (lexemes rest).map (.plain c :: ·)
termination_by chars => chars.length
decreasing_by
  · exact Nat.lt_succ_of_lt (length_readQuoted_lt _read)
  · exact Nat.lt_succ_self _

/-- The parts can be told apart when they are written one after the other: no quote stands
alone, and no literal directly behind another one. -/
inductive Separable : List Lexeme → Prop where
  | nil : Separable []
  | plain {c : Char} {parts : List Lexeme} (unquoted : c ≠ '\'') (rest : Separable parts) :
      Separable (.plain c :: parts)
  | literal {value : List Char} {parts : List Lexeme}
      (apart : (parts.flatMap Lexeme.written).head? ≠ some '\'') (rest : Separable parts) :
      Separable (.literal value :: parts)

theorem lexemes_plain {c : Char} (unquoted : c ≠ '\'') (rest : List Char) :
    lexemes (c :: rest) = (lexemes rest).map (.plain c :: ·) := by
  rw [lexemes, if_neg unquoted]

theorem lexemes_literal {value rest : List Char} (ends : rest.head? ≠ some '\'') :
    lexemes ('\'' :: (escaped '\'' none value ++ '\'' :: rest)) =
      (lexemes rest).map (.literal value :: ·) := by
  have read := readQuoted_escaped (Option.some_ne_none '\'').symm value ends
  rw [lexemes, if_pos rfl]
  split <;> simp_all

/-- A text has at most one reading: separable parts that it is written from. -/
theorem lexemes_eq_some_iff {chars : List Char} {parts : List Lexeme} :
    lexemes chars = some parts ↔ Separable parts ∧ chars = parts.flatMap Lexeme.written := by
  constructor
  · intro read
    fun_induction lexemes chars generalizing parts with
    | case1 =>
        cases read
        exact ⟨.nil, rfl⟩
    | case2 => cases read
    | case3 rest value behind found ih =>
        obtain ⟨others, reads, rfl⟩ := Option.map_eq_some_iff.mp read
        obtain ⟨separable, rfl⟩ := ih reads
        obtain ⟨rfl, ends⟩ := eq_escaped_of_readQuoted found
        exact ⟨.literal ends separable, by simp [Lexeme.written]⟩
    | case4 c rest unquoted ih =>
        obtain ⟨others, reads, rfl⟩ := Option.map_eq_some_iff.mp read
        obtain ⟨separable, rfl⟩ := ih reads
        exact ⟨.plain unquoted separable, rfl⟩
  · rintro ⟨separable, rfl⟩
    induction separable with
    | nil => simp [lexemes]
    | plain unquoted rest ih =>
        rw [List.flatMap_cons, Lexeme.written, List.singleton_append, lexemes_plain unquoted, ih]
        rfl
    | literal apart rest ih =>
        rw [List.flatMap_cons, Lexeme.written, List.cons_append, List.append_assoc,
          List.singleton_append, lexemes_literal apart, ih]
        rfl

/-- The characters of an expression that stand outside of its literals. -/
def outside (parts : List Lexeme) : List Char := parts.filterMap Lexeme.char?

/-- In the reading of the text, its parentheses outside of literals match each other. -/
def ReadsBalanced (chars : List Char) : Prop :=
  ∃ parts, lexemes chars = some parts ∧ Balanced (outside parts)

/-- In the reading of the text, its first and its last character are parentheses that are
matched with each other. -/
def ReadsPaired (chars : List Char) : Prop :=
  ∃ inner, lexemes chars = some (.plain '(' :: (inner ++ [.plain ')'])) ∧
    Balanced (outside inner)

/-- The literals among the parts are balanced, each by itself. -/
def LiteralsBalanced (parts : List Lexeme) : Prop :=
  ∀ value, .literal value ∈ parts → Balanced value

/-- The text is an expression whose literals are balanced. -/
def HasBalancedLiterals (chars : List Char) : Prop :=
  ∃ parts, lexemes chars = some parts ∧ LiteralsBalanced parts

/-! ## Literals without effect -/

theorem LiteralsBalanced.inner {first last : Lexeme} {inner : List Lexeme}
    (neutral : LiteralsBalanced (first :: (inner ++ [last]))) : LiteralsBalanced inner :=
  fun value member => neutral value (List.mem_cons_of_mem _ (List.mem_append_left _ member))

/-- Doubled quotes do not matter for parentheses. -/
theorem depthAfter_escaped (depth : Nat) (value : List Char) :
    depthAfter depth (escaped '\'' none value) = depthAfter depth value := by
  fun_induction depthAfter depth value with
  | case1 => rfl
  | case2 depth rest ih => simpa [escaped, depthAfter] using ih
  | case3 rest _ => simp [escaped, depthAfter]
  | case4 rest depth _ ih => simpa [escaped, depthAfter] using ih
  | case5 depth c rest opens closes ih =>
      by_cases quote : c = '\'' <;> simpa [escaped, depthAfter, quote, opens, closes] using ih

/-- Balanced literals have no effect on the number of open parentheses. -/
theorem depthAfter_written {parts : List Lexeme} (neutral : LiteralsBalanced parts) (depth : Nat) :
    depthAfter depth (parts.flatMap Lexeme.written) = depthAfter depth (outside parts) := by
  induction parts generalizing depth with
  | nil => rfl
  | cons part parts ih =>
      have rest := ih fun value member => neutral value (List.mem_cons_of_mem _ member)
      cases part with
      | plain c =>
          have first : outside (.plain c :: parts) = [c] ++ outside parts := rfl
          rw [List.flatMap_cons, Lexeme.written, first, depthAfter_append, depthAfter_append]
          simp only [rest]
      | literal value =>
          have balanced := neutral value List.mem_cons_self
          have skipped : depthAfter depth ('\'' :: (escaped '\'' none value ++ ['\''])) =
              some depth := by
            simp [depthAfter, depthAfter_append, depthAfter_escaped, balanced.depthAfter_eq]
          rw [List.flatMap_cons, Lexeme.written, depthAfter_append, skipped]
          exact rest depth

theorem balanced_written_iff {parts : List Lexeme} (neutral : LiteralsBalanced parts) :
    Balanced (parts.flatMap Lexeme.written) ↔ Balanced (outside parts) := by
  rw [balanced_iff, balanced_iff, depthAfter_written neutral]

variable {chars : List Char} {parts : List Lexeme}

/-- A balanced expression is read as one if its literals are balanced. -/
theorem HasBalancedLiterals.balanced_iff (sound : HasBalancedLiterals chars) :
    Balanced chars ↔ ReadsBalanced chars := by
  obtain ⟨parts, read, neutral⟩ := sound
  obtain ⟨-, rfl⟩ := lexemes_eq_some_iff.mp read
  rw [balanced_written_iff neutral, ReadsBalanced, read]
  simp

/-! ## Parentheses in the reading -/

theorem Separable.of_append {first second : List Lexeme}
    (separable : Separable (first ++ second)) : Separable first := by
  induction first with
  | nil => exact .nil
  | cons part first ih =>
      cases separable with
      | plain unquoted rest => exact .plain unquoted (ih rest)
      | literal apart rest =>
          refine .literal (fun quote => apart ?_) (ih rest)
          change ((first ++ second).flatMap Lexeme.written).head? = some '\''
          rw [List.flatMap_append, List.head?_append, quote, Option.some_or]

theorem exists_lexemes_behind (read : lexemes ('(' :: chars) = some parts) :
    ∃ behind, parts = .plain '(' :: behind ∧ lexemes chars = some behind := by
  rw [lexemes_plain (by decide)] at read
  obtain ⟨behind, reads, rfl⟩ := Option.map_eq_some_iff.mp read
  exact ⟨behind, rfl, reads⟩

theorem exists_lexemes_front (read : lexemes (chars ++ [')']) = some parts) :
    ∃ front, parts = front ++ [.plain ')'] ∧ lexemes chars = some front := by
  obtain ⟨separable, same⟩ := lexemes_eq_some_iff.mp read
  rcases List.eq_nil_or_concat' parts with rfl | ⟨front, last, rfl⟩
  · simp at same
  rw [List.flatMap_append, List.flatMap_singleton] at same
  cases last with
  | plain c =>
      obtain ⟨rfl, close⟩ := List.append_inj' same rfl
      cases close
      exact ⟨front, rfl, lexemes_eq_some_iff.mpr ⟨separable.of_append, rfl⟩⟩
  | literal value =>
      rw [Lexeme.written, ← List.cons_append, ← List.append_assoc] at same
      exact absurd (List.append_inj_right' same rfl) (by decide)

/-- What stands between two parentheses is read by itself. -/
theorem exists_lexemes_inner (read : lexemes ('(' :: (chars ++ [')'])) = some parts) :
    ∃ inner, parts = .plain '(' :: (inner ++ [.plain ')']) ∧ lexemes chars = some inner := by
  obtain ⟨behind, rfl, further⟩ := exists_lexemes_behind read
  obtain ⟨inner, rfl, within⟩ := exists_lexemes_front further
  exact ⟨inner, rfl, within⟩

theorem HasBalancedLiterals.inner (sound : HasBalancedLiterals ('(' :: (chars ++ [')']))) :
    HasBalancedLiterals chars := by
  obtain ⟨parts, read, neutral⟩ := sound
  obtain ⟨inner, rfl, reads⟩ := exists_lexemes_inner read
  exact ⟨inner, reads, neutral.inner⟩

/-- Parentheses that count all are those of the reading if literals are balanced. -/
theorem HasBalancedLiterals.enclosed_iff (sound : HasBalancedLiterals chars) :
    Enclosed chars ↔ ReadsPaired chars := by
  obtain ⟨parts, read, neutral⟩ := sound
  constructor
  · rintro ⟨between, rfl, balanced⟩
    obtain ⟨inner, rfl, reads⟩ := exists_lexemes_inner read
    obtain ⟨-, rfl⟩ := lexemes_eq_some_iff.mp reads
    exact ⟨inner, read, (balanced_written_iff neutral.inner).mp balanced⟩
  · rintro ⟨inner, reads, balanced⟩
    obtain rfl := Option.some_inj.mp (read.symm.trans reads)
    obtain ⟨-, same⟩ := lexemes_eq_some_iff.mp read
    have whole : chars = '(' :: (inner.flatMap Lexeme.written ++ [')']) := by
      simpa [Lexeme.written] using same
    exact ⟨_, whole, (balanced_written_iff neutral.inner).mpr balanced⟩

theorem HasBalancedLiterals.of_enclosed {pairs : Nat}
    (sound : HasBalancedLiterals (enclosed pairs chars)) :
    ∀ fewer ≤ pairs, HasBalancedLiterals (enclosed fewer chars) := by
  induction pairs with
  | zero =>
      intro fewer least
      rwa [Nat.le_zero.mp least]
  | succ pairs ih =>
      intro fewer atMost
      rcases Nat.le_succ_iff.mp atMost with less | rfl
      · exact ih sound.inner fewer less
      · exact sound

/-- Taking off pairs that count all parentheses is taking off pairs of the reading. -/
theorem HasBalancedLiterals.peels_iff {core : List Char} (sound : HasBalancedLiterals chars) :
    Peels Enclosed chars core ↔ Peels ReadsPaired chars core := by
  refine exists_congr fun pairs => and_congr_right ?_
  rintro rfl
  have each := sound.of_enclosed
  refine and_congr ?_ (not_congr (each 0 (Nat.zero_le pairs)).enclosed_iff)
  exact forall₂_congr fun fewer less => (each (fewer + 1) less).enclosed_iff

/-- **Taking off parentheses follows the reading of an expression whose literals are
balanced.** Pairs are taken off exactly as long as the first and the last character are
matched with each other in the reading, and any number of pairs around an expression that is
balanced in its reading and not itself in such a pair are taken off. -/
theorem withoutEnclosing_reading {expression : String}
    (sound : HasBalancedLiterals expression.toList) :
    (∀ core, withoutEnclosing expression = core ↔
        Peels ReadsPaired expression.toList core.toList) ∧
      (ReadsBalanced expression.toList → ¬ ReadsPaired expression.toList → ∀ pairs,
        withoutEnclosing (String.ofList (enclosed pairs expression.toList)) = expression) := by
  constructor
  · intro core
    rw [withoutEnclosing_eq_iff, stripParentheses_eq_iff, sound.peels_iff]
  · intro balanced bare pairs
    rw [withoutEnclosing_eq_iff, String.toList_ofList]
    exact stripParentheses_enclosed (sound.balanced_iff.mpr balanced)
      (mt sound.enclosed_iff.mp bare) pairs

/-- Stripping and reading disagree on literals that are not balanced. In its reading, one
literal in parentheses is in a pair, which is kept; the sum of two such literals is in none,
but its first and its last parenthesis are taken off. -/
theorem withoutEnclosing_literal :
    (ReadsPaired "('(')".toList ∧ withoutEnclosing "('(')" = "('(')") ∧
      ¬ ReadsPaired "('(')+(')')".toList ∧
        withoutEnclosing "('(')+(')')" = "'(')+(')'" := by
  have one : lexemes "('(')".toList = some [.plain '(', .literal ['('], .plain ')'] := by cbv
  let middle : List Lexeme := [.literal ['('], .plain ')', .plain '+', .plain '(', .literal [')']]
  have sum : lexemes "('(')+(')')".toList = some (.plain '(' :: (middle ++ [.plain ')'])) := by
    cbv
  refine ⟨⟨⟨[.literal ['(']], one, balanced_iff.mpr rfl⟩, by decide +kernel⟩, ?_, by decide +kernel⟩
  rintro ⟨inner, read, balanced⟩
  have same := Option.some_inj.mp (read.symm.trans sum)
  obtain rfl : inner = middle := List.append_cancel_right (List.cons.inj same).2
  cases balanced_iff.mp balanced

end Warehouse.Text
