import Warehouse.Proofs.Text.Separation
import Warehouse.Text.Occurrence

/-! # Counting occurrences

How often a word occurs in texts put one behind the other is how often it occurs in each of
them, unless an occurrence begins in one and ends in the next (`Text.occurrences_append`). None
does if one of the two characters at the boundary, or the pair of characters on one side of it,
is not in the word. -/

namespace Warehouse

namespace Text

/-- The number of positions of a text at which the word begins. -/
def occurrences (word : List Char) : List Char → Nat
  | [] => if word = [] then 1 else 0
  | c :: rest => (if word <+: c :: rest then 1 else 0) + occurrences word rest

variable {word text first second : List Char}

theorem occurrences_eq_zero_iff : occurrences word text = 0 ↔ ¬ word <:+: text := by
  induction text with
  | nil => simp [occurrences]
  | cons c rest ih =>
      rw [occurrences, Nat.add_eq_zero_iff, ih, List.infix_cons_iff, not_or]
      simp

theorem occurrences_pos_iff : 0 < occurrences word text ↔ word <:+: text := by
  rw [Nat.pos_iff_ne_zero, ne_eq, occurrences_eq_zero_iff, not_not]

/-- A word does not occur where one of its characters does not. -/
theorem occurrences_eq_zero_of_not_mem {c : Char} (member : c ∈ word) (free : c ∉ text) :
    occurrences word text = 0 :=
  occurrences_eq_zero_iff.mpr fun within => free (within.subset member)

/-! ## Boundaries -/

/-- No occurrence of the word begins in the text and ends behind it. -/
def NoneLeaves (word text : List Char) : Prop :=
  ∀ front back, word = front ++ back → front ≠ [] → back ≠ [] → ¬ front <:+ text

/-- No occurrence of the word begins in front of the text and ends in it. -/
def NoneEnters (word text : List Char) : Prop :=
  ∀ front back, word = front ++ back → front ≠ [] → back ≠ [] → ¬ back <+: text

theorem NoneLeaves.of_suffix (leaves : NoneLeaves word text) (behind : second <:+ text) :
    NoneLeaves word second := fun front back split present present' here =>
  leaves front back split present present' (here.trans behind)

/-- What begins in the first of two texts begins in it alone, unless it reaches into the
second. -/
theorem prefix_append_iff {c : Char} {rest : List Char}
    (apart : NoneLeaves word (c :: rest) ∨ NoneEnters word second) :
    word <+: c :: rest ++ second ↔ word <+: c :: rest := by
  constructor
  · rintro ⟨behind, same⟩
    rcases List.append_eq_append_iff.mp same with ⟨more, whole, -⟩ | ⟨more, whole, reaching⟩
    · exact ⟨more, whole.symm⟩
    · by_cases none : more = []
      · rw [none, List.append_nil] at whole
        exact whole ▸ List.prefix_rfl
      · rcases apart with leaves | enters
        · exact absurd List.suffix_rfl (leaves _ more whole (List.cons_ne_nil _ _) none)
        · exact absurd ⟨behind, reaching.symm⟩ (enters _ more whole (List.cons_ne_nil _ _) none)
  · exact fun begins => begins.trans (List.prefix_append _ _)

/-- **Occurrences add up** where none reaches from one text into the next. -/
theorem occurrences_append (present : word ≠ [])
    (apart : NoneLeaves word first ∨ NoneEnters word second) :
    occurrences word (first ++ second) = occurrences word first + occurrences word second := by
  induction first with
  | nil => simp [occurrences, present]
  | cons c rest ih =>
      have behind : NoneLeaves word rest ∨ NoneEnters word second :=
        apart.imp_left fun leaves => leaves.of_suffix (List.suffix_cons c rest)
      have begins := prefix_append_iff apart
      rw [List.cons_append] at begins
      simp only [List.cons_append, occurrences, begins, ih behind, Nat.add_assoc]

theorem occurrences_append_eq_zero (present : word ≠ [])
    (apart : NoneLeaves word first ∨ NoneEnters word second)
    (free : occurrences word first = 0) (free' : occurrences word second = 0) :
    occurrences word (first ++ second) = 0 := by
  rw [occurrences_append present apart, free, free']

theorem noneEnters_nil : NoneEnters word [] := by
  intro front back _ _ present here
  exact present (List.prefix_nil.mp here)

/-- No occurrence passes a character that is not in the word. -/
theorem noneLeaves_of_getLast? (foreign : ∀ c ∈ text.getLast?, c ∉ word) :
    NoneLeaves word text := by
  intro front back split present _ here
  obtain ⟨before, last, rfl⟩ := List.eq_nil_or_concat front |>.resolve_left present
  obtain ⟨others, rfl⟩ := here
  exact foreign last (by simp) (by simp [split])

theorem noneEnters_of_head? (foreign : ∀ c ∈ text.head?, c ∉ word) : NoneEnters word text := by
  intro front back split _ present here
  obtain ⟨head, rest, rfl⟩ := List.exists_cons_of_ne_nil present
  obtain ⟨others, rfl⟩ := here
  exact foreign head rfl (by simp [split])

/-- No occurrence passes two characters that do not stand together in the word, unless it
begins or ends with one of them. -/
theorem noneLeaves_pair {a b : Char} (apart : ¬ [a, b] <:+: word) (other : word.head? ≠ some b)
    (text : List Char) : NoneLeaves word (text ++ [a, b]) := by
  intro front back split present _ here
  rcases List.suffix_or_suffix_of_suffix here (List.suffix_append text [a, b]) with short | long
  · rw [List.suffix_cons_iff, List.suffix_cons_iff, List.suffix_nil] at short
    rcases short with both | single | none
    · exact apart ⟨[], back, by rw [split, both]; rfl⟩
    · exact other (by rw [split, single]; rfl)
    · exact present none
  · obtain ⟨before, rfl⟩ := long
    exact apart ⟨before, back, by rw [split]⟩

theorem noneEnters_pair {a b : Char} (apart : ¬ [a, b] <:+: word) (other : word.getLast? ≠ some a)
    (text : List Char) : NoneEnters word (a :: b :: text) := by
  intro front back split _ present here
  rcases List.prefix_or_prefix_of_prefix here (List.prefix_append [a, b] text) with short | long
  · rw [List.prefix_cons_iff] at short
    rcases short with none | ⟨last, rfl, shorter⟩
    · exact present none
    · rcases List.prefix_cons_iff.mp shorter with rfl | ⟨more, rfl, nothing⟩
      · exact other (by simp [split])
      · rw [List.prefix_nil.mp nothing] at split
        exact apart ⟨front, [], by simp [split]⟩
  · obtain ⟨behind, rfl⟩ := long
    exact apart ⟨front, behind, by rw [split]; simp⟩

/-! ## Lists -/

/-- The word does not occur in the separator, and no occurrence reaches into it. -/
structure IsSeparator (word separator : List Char) : Prop where
  free : occurrences word separator = 0
  foreign : ∃ c rest, separator = c :: rest ∧ c ∉ word

variable {α : Type} {separator : List Char} {write : α → List Char} {items : List α}

theorem IsSeparator.noneEnters_append (separates : IsSeparator word separator)
    (rest : List Char) : NoneEnters word (separator ++ rest) := by
  obtain ⟨c, blanks, rfl, foreign⟩ := separates.foreign
  apply noneEnters_of_head?
  rintro _ ⟨⟩
  exact foreign

theorem IsSeparator.noneEnters_flatMap (separates : IsSeparator word separator)
    (others : List α) : NoneEnters word (others.flatMap fun next => separator ++ write next) := by
  cases others with
  | nil => exact noneEnters_nil
  | cons next others =>
      rw [List.flatMap_cons, List.append_assoc]
      exact separates.noneEnters_append _

/-- A word that occurs in no item does not occur in a list of them, if no occurrence reaches
into an item. -/
theorem occurrences_joined_eq_zero (present : word ≠ []) (separates : IsSeparator word separator)
    (enters : ∀ item ∈ items, NoneEnters word (write item))
    (free : ∀ item ∈ items, occurrences word (write item) = 0) :
    occurrences word (joined separator write items) = 0 := by
  have tail : ∀ others ⊆ items,
      occurrences word (others.flatMap fun next => separator ++ write next) = 0 := by
    intro others
    induction others with
    | nil => simp [occurrences, present]
    | cons next others ih =>
        intro within
        obtain ⟨member, behind⟩ := List.cons_subset.mp within
        have first := occurrences_append_eq_zero present (.inr (enters next member))
          separates.free (free next member)
        exact occurrences_append_eq_zero present (.inr (separates.noneEnters_flatMap others))
          first (ih behind)
  cases items with
  | nil => simp [joined, occurrences, present]
  | cons item others =>
      exact occurrences_append_eq_zero present (.inr (separates.noneEnters_flatMap others))
        (free item List.mem_cons_self) (tail others (List.subset_cons_self item others))

end Text

end Warehouse
