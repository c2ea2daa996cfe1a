import Warehouse.Text.Parenthesis

/-! # Balanced texts

A text is balanced if its parentheses match each other. A text is enclosed exactly if it
is a balanced text between two parentheses (`isEnclosed_iff`), and the text inside all
enclosing pairs is what is left of a balanced text that was enclosed any number of times
(`stripParentheses_enclosed`). -/

namespace Warehouse.Text

/-- No prefix closes more parentheses than it opens, and all of them are closed. -/
def Balanced (chars : List Char) : Prop :=
  (∀ front, front <+: chars → front.count ')' ≤ front.count '(') ∧
    chars.count '(' = chars.count ')'

/-- The text is a balanced text between two parentheses, which are then a pair. -/
def Enclosed (chars : List Char) : Prop :=
  ∃ inner, chars = '(' :: (inner ++ [')']) ∧ Balanced inner

/-- The number of parentheses that are open behind the characters when the given number
is open before them, unless too many are closed. -/
def depthAfter (depth : Nat) : List Char → Option Nat
  | [] => some depth
  | c :: rest =>
      if c = '(' then depthAfter (depth + 1) rest
      else if c = ')' then
        match depth with
        | 0 => none
        | depth + 1 => depthAfter depth rest
      else depthAfter depth rest

theorem depthAfter_append (depth : Nat) (first second : List Char) :
    depthAfter depth (first ++ second) =
      (depthAfter depth first).bind fun depth => depthAfter depth second := by
  fun_induction depthAfter depth first with
  | case1 => rfl
  | case2 depth rest ih => simpa [depthAfter] using ih
  | case3 rest _ => simp [depthAfter]
  | case4 rest _ depth ih => simpa [depthAfter] using ih
  | case5 depth c rest opens closes ih => simpa [depthAfter, opens, closes] using ih

theorem forall_prefix_cons {c : Char} {rest : List Char} {holds : List Char → Prop} :
    (∀ front, front <+: c :: rest → holds front) ↔
      holds [] ∧ ∀ front, front <+: rest → holds (c :: front) := by
  simp only [List.prefix_cons_iff]
  constructor
  · intro all
    exact ⟨all [] (.inl rfl), fun front within => all _ (.inr ⟨front, rfl, within⟩)⟩
  · rintro ⟨empty, longer⟩ _ (rfl | ⟨front, rfl, within⟩)
    · exact empty
    · exact longer front within

theorem depthAfter_eq_some_iff {depth after : Nat} {chars : List Char} :
    depthAfter depth chars = some after ↔
      (∀ front, front <+: chars → front.count ')' ≤ front.count '(' + depth) ∧
        chars.count '(' + depth = chars.count ')' + after := by
  fun_induction depthAfter depth chars with
  | case1 depth => simp
  | case2 depth rest ih =>
      rw [ih, forall_prefix_cons]
      simp [Nat.add_comm, Nat.add_left_comm]
  | case3 rest _ =>
      rw [forall_prefix_cons]
      simp only [reduceCtorEq, false_iff, not_and]
      intro within
      have closed := within.2 [] List.nil_prefix
      simp at closed
  | case4 rest depth _ ih =>
      rw [ih, forall_prefix_cons]
      simp only [List.count_nil, Nat.zero_le, true_and, List.count_cons, beq_self_eq_true,
        ↓reduceIte, Char.reduceBEq, Bool.false_eq_true]
      refine and_congr (forall₂_congr fun front _ => ?_) ?_ <;> omega
  | case5 depth c rest opens closes ih =>
      rw [ih, forall_prefix_cons]
      simp [opens, closes]

theorem balanced_iff {chars : List Char} : Balanced chars ↔ depthAfter 0 chars = some 0 := by
  simp [Balanced, depthAfter_eq_some_iff]

/-- Behind balanced characters as many parentheses are open as before them. -/
theorem Balanced.depthAfter_eq {chars : List Char} (balanced : Balanced chars) (depth : Nat) :
    depthAfter depth chars = some depth := by
  obtain ⟨within, total⟩ := balanced
  refine depthAfter_eq_some_iff.mpr ⟨fun front member => ?_, by omega⟩
  have := within front member
  omega

theorem Balanced.enclosed {inner : List Char} (balanced : Balanced inner) :
    Balanced ('(' :: (inner ++ [')'])) := by
  rw [balanced_iff, depthAfter, if_pos rfl, depthAfter_append, balanced.depthAfter_eq]
  rfl

/-! ## Enclosed texts -/

theorem exists_cons_eq_concat {c last : Char} {rest : List Char} {holds : List Char → Prop} :
    (∃ inner, c :: rest = inner ++ [last] ∧ holds inner) ↔
      (c = last ∧ rest = [] ∧ holds []) ∨
        ∃ inner, rest = inner ++ [last] ∧ holds (c :: inner) := by
  constructor
  · rintro ⟨_ | ⟨first, inner⟩, same, held⟩
    · obtain ⟨rfl, rfl⟩ := List.cons.inj same
      exact .inl ⟨rfl, rfl, held⟩
    · obtain ⟨rfl, rfl⟩ := List.cons.inj same
      exact .inr ⟨inner, rfl, held⟩
  · rintro (⟨rfl, rfl, held⟩ | ⟨inner, rfl, held⟩)
    · exact ⟨[], rfl, held⟩
    · exact ⟨c :: inner, rfl, held⟩

theorem closesAtEnd_iff {depth : Nat} {chars : List Char} :
    closesAtEnd (depth + 1) chars = true ↔
      ∃ inner, chars = inner ++ [')'] ∧ depthAfter depth inner = some 0 := by
  induction chars generalizing depth with
  | nil => simp [closesAtEnd]
  | cons c rest ih =>
      rw [exists_cons_eq_concat]
      by_cases opens : c = '('
      · simp [closesAtEnd, depthAfter, opens, ih]
      by_cases closes : c = ')'
      · cases depth with
        | zero => simp [closesAtEnd, depthAfter, closes]
        | succ depth => simp [closesAtEnd, depthAfter, closes, ih]
      · simp [closesAtEnd, depthAfter, opens, closes, ih]

/-- The first and the last character are found to be a pair exactly if they are one. -/
theorem isEnclosed_iff {chars : List Char} : isEnclosed chars = true ↔ Enclosed chars := by
  unfold isEnclosed Enclosed
  split
  · simp [closesAtEnd_iff, balanced_iff]
  · rename_i other
    simp only [Bool.false_eq_true, false_iff, not_exists, not_and]
    rintro inner rfl
    exact absurd rfl (other _)

/-- The characters inside the given number of enclosing pairs. -/
def enclosed : Nat → List Char → List Char
  | 0, inner => inner
  | pairs + 1, inner => '(' :: (enclosed pairs inner ++ [')'])

theorem balanced_enclosed {inner : List Char} (balanced : Balanced inner) (pairs : Nat) :
    Balanced (enclosed pairs inner) := by
  induction pairs with
  | zero => exact balanced
  | succ pairs ih => exact ih.enclosed

theorem stripParentheses_of_bare {chars : List Char} (bare : ¬ Enclosed chars) :
    stripParentheses chars = chars := by
  rw [stripParentheses, dif_neg (mt isEnclosed_iff.mp bare)]

theorem stripParentheses_of_balanced {inner : List Char} (balanced : Balanced inner) :
    stripParentheses ('(' :: (inner ++ [')'])) = stripParentheses inner := by
  have paired : isEnclosed ('(' :: (inner ++ [')'])) = true :=
    isEnclosed_iff.mpr ⟨inner, rfl, balanced⟩
  rw [stripParentheses, dif_pos paired, List.tail_cons, List.dropLast_concat]

/-- Any number of pairs around a balanced text are taken off. -/
theorem stripParentheses_enclosed_balanced {inner : List Char} (balanced : Balanced inner)
    (pairs : Nat) : stripParentheses (enclosed pairs inner) = stripParentheses inner := by
  induction pairs with
  | zero => rfl
  | succ pairs ih =>
      rw [enclosed, stripParentheses_of_balanced (balanced_enclosed balanced pairs), ih]

/-- All pairs around a balanced text that is not itself enclosed are taken off. -/
theorem stripParentheses_enclosed {inner : List Char} (balanced : Balanced inner)
    (bare : ¬ Enclosed inner) (pairs : Nat) :
    stripParentheses (enclosed pairs inner) = inner :=
  (stripParentheses_enclosed_balanced balanced pairs).trans (stripParentheses_of_bare bare)

end Warehouse.Text
