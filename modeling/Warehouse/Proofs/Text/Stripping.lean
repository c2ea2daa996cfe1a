import Mathlib.Logic.ExistsUnique
import Warehouse.Proofs.Text.Parenthesis

/-! # The text inside all pairs

Taking off parentheses leaves one definite text: what is taken off are pairs around balanced
texts, and what is left is not in such a pair (`withoutEnclosing_core`). -/

namespace Warehouse.Text

/-- The text is a core inside a number of pairs of parentheses, all of which are pairs in a
given sense, while the core is in no such pair. -/
def Peels (paired : List Char → Prop) (chars core : List Char) : Prop :=
  ∃ pairs, chars = enclosed pairs core ∧
    (∀ fewer < pairs, paired (enclosed (fewer + 1) core)) ∧ ¬ paired core

theorem Peels.of_bare {paired : List Char → Prop} {chars : List Char} (bare : ¬ paired chars) :
    Peels paired chars chars :=
  ⟨0, rfl, nofun, bare⟩

theorem Peels.enclose {paired : List Char → Prop} {inner core : List Char}
    (peels : Peels paired inner core) (outer : paired ('(' :: (inner ++ [')']))) :
    Peels paired ('(' :: (inner ++ [')'])) core := by
  obtain ⟨pairs, rfl, within, bare⟩ := peels
  refine ⟨pairs + 1, rfl, fun fewer less => ?_, bare⟩
  rcases Nat.lt_succ_iff_lt_or_eq.mp less with inside | rfl
  · exact within fewer inside
  · exact outer

theorem enclosed_succ_iff {pairs : Nat} {inner : List Char} :
    Enclosed (enclosed (pairs + 1) inner) ↔ Balanced (enclosed pairs inner) := by
  constructor
  · rintro ⟨middle, same, balanced⟩
    have inside := List.append_cancel_right (List.cons.inj same).2
    rwa [inside]
  · exact fun balanced => ⟨_, rfl, balanced⟩

/-- Stripping ends with a core, whatever it is applied to. -/
theorem peels_stripParentheses (chars : List Char) :
    Peels Enclosed chars (stripParentheses chars) := by
  fun_induction stripParentheses chars with
  | case1 chars found ih =>
      obtain ⟨inner, rfl, balanced⟩ := isEnclosed_iff.mp found
      rw [List.tail_cons, List.dropLast_concat] at ih ⊢
      exact ih.enclose ⟨inner, rfl, balanced⟩
  | case2 chars other => exact .of_bare (mt isEnclosed_iff.mpr other)

theorem stripParentheses_of_peels {chars core : List Char} (peels : Peels Enclosed chars core) :
    stripParentheses chars = core := by
  obtain ⟨pairs, rfl, within, bare⟩ := peels
  induction pairs with
  | zero => exact stripParentheses_of_bare bare
  | succ pairs ih =>
      have balanced := enclosed_succ_iff.mp (within pairs (Nat.lt_succ_self pairs))
      rw [enclosed, stripParentheses_of_balanced balanced]
      exact ih fun fewer less => within fewer (Nat.lt_succ_of_lt less)

/-- A text has one core only, which is what stripping leaves. -/
theorem stripParentheses_eq_iff {chars core : List Char} :
    stripParentheses chars = core ↔ Peels Enclosed chars core := by
  constructor
  · rintro rfl
    exact peels_stripParentheses chars
  · exact stripParentheses_of_peels

theorem stripParentheses_stripParentheses (chars : List Char) :
    stripParentheses (stripParentheses chars) = stripParentheses chars := by
  obtain ⟨-, -, -, bare⟩ := peels_stripParentheses chars
  exact stripParentheses_of_bare bare

theorem toList_withoutEnclosing (text : String) :
    (withoutEnclosing text).toList = stripParentheses text.toList :=
  String.toList_ofList

theorem withoutEnclosing_eq_iff {text core : String} :
    withoutEnclosing text = core ↔ stripParentheses text.toList = core.toList := by
  rw [← toList_withoutEnclosing, String.toList_inj]

/-- **What taking off parentheses leaves.** A text without its enclosing parentheses is the
one core from which the text comes about by parentheses around balanced texts and which is
not enclosed itself. Nothing more is taken off from what is left, and any number of pairs
around a balanced text make no difference. -/
theorem withoutEnclosing_core (text : String) :
    (∃! core : String, Peels Enclosed text.toList core.toList) ∧
      (∀ core, withoutEnclosing text = core ↔ Peels Enclosed text.toList core.toList) ∧
      withoutEnclosing (withoutEnclosing text) = withoutEnclosing text ∧
      (Balanced text.toList → ∀ pairs,
        withoutEnclosing (String.ofList (enclosed pairs text.toList)) = withoutEnclosing text) := by
  have cores (core : String) :
      withoutEnclosing text = core ↔ Peels Enclosed text.toList core.toList :=
    withoutEnclosing_eq_iff.trans stripParentheses_eq_iff
  refine ⟨⟨withoutEnclosing text, (cores _).mp rfl, ?_⟩, cores, ?_, ?_⟩
  · exact fun core peels => ((cores core).mpr peels).symm
  · rw [withoutEnclosing_eq_iff, toList_withoutEnclosing,
      stripParentheses_stripParentheses]
  · intro balanced pairs
    rw [withoutEnclosing_eq_iff, String.toList_ofList, toList_withoutEnclosing]
    exact stripParentheses_enclosed_balanced balanced pairs

example : withoutEnclosing "((1)+(2))" = "(1)+(2)" := by decide +kernel

end Warehouse.Text
