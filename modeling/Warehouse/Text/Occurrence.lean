/-! # Occurrence of a text in another

`occursIn` decides whether a word occurs as consecutive characters of a text
(`occursIn_iff`). -/

namespace Warehouse.Text

/-- The word occurs as consecutive characters of the text. -/
def occursIn (word : List Char) : List Char → Bool
  | [] => word.isEmpty
  | c :: rest => word.isPrefixOf (c :: rest) || occursIn word rest

theorem occursIn_iff {word text : List Char} : occursIn word text = true ↔ word <:+: text := by
  induction text with
  | nil => simp [occursIn, List.isEmpty_iff]
  | cons c rest ih =>
      simp only [occursIn, Bool.or_eq_true, List.isPrefixOf_iff_prefix, ih]
      exact List.infix_cons_iff.symm

end Warehouse.Text
