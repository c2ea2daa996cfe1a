import Mathlib.Data.List.TakeWhile

/-! # Texts that can be told apart

What is written for a thing can be cut off the front of a longer text if the characters
behind it show where it ends. Such texts may be put one behind the other, and listed with
a separator between them (`Separates.listed`), without losing what was written. -/

namespace Warehouse

/-- What is written for admitted things tells them apart, also in front of further text,
as long as that text begins as it may. -/
def Separates {α : Type} (write : α → List Char) (admits : α → Prop)
    (follows : List Char → Prop) : Prop :=
  ∀ ⦃first second : α⦄, admits first → admits second →
    ∀ ⦃rest behind : List Char⦄, follows rest → follows behind →
      write first ++ rest = write second ++ behind → first = second ∧ rest = behind

variable {α : Type} {write : α → List Char} {admits : α → Prop} {follows : List Char → Prop}

/-! ## Ends of texts -/

/-- Characters of a class end where a character of another class stands. -/
theorem takeWhile_append_of_head {inside : Char → Bool} {text rest : List Char}
    (all : ∀ c ∈ text, inside c = true) (ends : ∀ c ∈ rest.head?, inside c = false) :
    (text ++ rest).takeWhile inside = text ∧ (text ++ rest).dropWhile inside = rest := by
  rw [List.takeWhile_append_of_pos all, List.dropWhile_append_of_pos all]
  rcases rest with _ | ⟨c, rest⟩
  · simp
  · simp [ends c rfl]

/-- Characters without a mark end where the mark stands. -/
theorem takeWhile_append_mark {mark : Char} {text : List Char} (free : mark ∉ text)
    (rest : List Char) :
    (text ++ mark :: rest).takeWhile (· ≠ mark) = text ∧
      (text ++ mark :: rest).dropWhile (· ≠ mark) = mark :: rest := by
  apply takeWhile_append_of_head
  · intro c member
    exact decide_eq_true fun same => free (same ▸ member)
  · simp

theorem append_inj_of_head {inside : Char → Bool} {first second rest behind : List Char}
    (all : ∀ c ∈ first, inside c = true) (all' : ∀ c ∈ second, inside c = true)
    (ends : ∀ c ∈ rest.head?, inside c = false) (ends' : ∀ c ∈ behind.head?, inside c = false)
    (same : first ++ rest = second ++ behind) : first = second ∧ rest = behind := by
  have left := takeWhile_append_of_head all ends
  have right := takeWhile_append_of_head all' ends'
  rw [same] at left
  exact ⟨left.1.symm.trans right.1, left.2.symm.trans right.2⟩

/-- Words are told apart if none that goes on where another one ends goes on like the text
behind that one. -/
theorem Separates.of_overhang
    (overhang : ∀ first second, admits first → admits second →
      ∀ more, write second = write first ++ more →
        (more = [] ∧ first = second) ∨ ∀ rest, ¬ follows (more ++ rest)) :
    Separates write admits follows := by
  intro first second admitted admitted' rest behind ends ends' same
  rcases List.append_eq_append_iff.mp same with ⟨more, longer, left⟩ | ⟨more, longer, left⟩
  · rcases overhang first second admitted admitted' more longer with ⟨rfl, equal⟩ | never
    · exact ⟨equal, left⟩
    · exact absurd (left ▸ ends) (never behind)
  · rcases overhang second first admitted' admitted more longer with ⟨rfl, equal⟩ | never
    · exact ⟨equal.symm, left.symm⟩
    · exact absurd (left ▸ ends') (never rest)

/-! ## Lists -/

/-- What is written for items, with a separator between them. -/
def joined (separator : List Char) (write : α → List Char) : List α → List Char
  | [] => []
  | item :: others => write item ++ others.flatMap fun next => separator ++ write next

theorem joined_map {β : Type} (separator : List Char) (write : α → List Char) (f : β → α)
    (items : List β) :
    joined separator write (items.map f) = joined separator (write ∘ f) items := by
  cases items with
  | nil => rfl
  | cons item others => simp [joined, List.flatMap_map]

/-- A text begins neither like an item, if these begin with the given character, nor like
a separator with an item behind it. -/
structure EndsList (separator : List Char) (opening : Char) (rest : List Char) : Prop where
  noItem : rest.head? ≠ some opening
  noMore : ¬ (separator ++ [opening]) <+: rest

section Joined

variable {separator : List Char} {opening : Char}
  (separates : Separates write admits follows)
  (opens : ∀ item, admits item → (write item).head? = some opening)
  (between : ∀ chars, follows (separator ++ opening :: chars))

include opens between in
/-- An item in a list has a text behind it that it may have. -/
theorem follows_flatMap {others : List α} (admitted : ∀ item ∈ others, admits item)
    {rest : List Char} (ends : follows rest) :
    follows (others.flatMap (fun next => separator ++ write next) ++ rest) := by
  cases others with
  | nil => exact ends
  | cons item others =>
      obtain ⟨chars, written⟩ :=
        List.head?_eq_some_iff.mp (opens item (admitted item List.mem_cons_self))
      simpa [written] using between _

include opens in
/-- A list that has ended is not continued by further items. -/
theorem flatMap_append_ne {item : α} (admitted : admits item) (others : List α)
    {rest : List Char} (behind : List Char) (ends : EndsList separator opening rest) :
    (item :: others).flatMap (fun next => separator ++ write next) ++ behind ≠ rest := by
  intro same
  obtain ⟨chars, written⟩ := List.head?_eq_some_iff.mp (opens item admitted)
  apply ends.noMore
  rw [← same]
  exact ⟨chars ++ others.flatMap (fun next => separator ++ write next) ++ behind, by simp [written]⟩

include opens in
/-- A text that does not begin like an item does not begin like a list of items. -/
theorem joined_append_ne {item : α} (admitted : admits item) (others : List α)
    {rest : List Char} (behind : List Char) (ends : EndsList separator opening rest) :
    joined separator write (item :: others) ++ behind ≠ rest := by
  intro same
  obtain ⟨chars, written⟩ := List.head?_eq_some_iff.mp (opens item admitted)
  apply ends.noItem
  rw [← same]
  simp [joined, written]

include separates opens between in
theorem Separates.flatMap :
    Separates (fun items : List α => items.flatMap fun next => separator ++ write next)
      (∀ item ∈ ·, admits item) (fun rest => follows rest ∧ EndsList separator opening rest) := by
  intro first
  induction first with
  | nil =>
      intro second _ admitted' rest behind ends ends' same
      cases second with
      | nil => exact ⟨rfl, same⟩
      | cons item others =>
          have here := admitted' item List.mem_cons_self
          exact absurd same.symm (flatMap_append_ne opens here others behind ends.2)
  | cons item others ih =>
      intro second admitted admitted' rest behind ends ends' same
      cases second with
      | nil =>
          have here := admitted item List.mem_cons_self
          exact absurd same (flatMap_append_ne opens here others rest ends'.2)
      | cons item' others' =>
          have here := List.forall_mem_cons.mp admitted
          have here' := List.forall_mem_cons.mp admitted'
          simp only [List.flatMap_cons, List.append_assoc, List.append_cancel_left_eq] at same
          obtain ⟨equal, left⟩ := separates here.1 here'.1
            (follows_flatMap opens between here.2 ends.1)
            (follows_flatMap opens between here'.2 ends'.1) same
          obtain ⟨equals, left⟩ := ih here.2 here'.2 ends ends' left
          exact ⟨by rw [equal, equals], left⟩

include separates opens between in
/-- **Lists are told apart if their items are**, provided that all items begin with the
same character and that the text behind a list does not go on like the list. -/
theorem Separates.joined :
    Separates (joined separator write) (∀ item ∈ ·, admits item)
      (fun rest => follows rest ∧ EndsList separator opening rest) := by
  intro first second admitted admitted' rest behind ends ends' same
  cases first with
  | nil =>
      cases second with
      | nil => exact ⟨rfl, same⟩
      | cons item others =>
          have here := admitted' item List.mem_cons_self
          exact absurd same.symm (joined_append_ne opens here others behind ends.2)
  | cons item others =>
      cases second with
      | nil =>
          have here := admitted item List.mem_cons_self
          exact absurd same (joined_append_ne opens here others rest ends'.2)
      | cons item' others' =>
          have here := List.forall_mem_cons.mp admitted
          have here' := List.forall_mem_cons.mp admitted'
          simp only [Warehouse.joined, List.append_assoc] at same
          obtain ⟨equal, left⟩ := separates here.1 here'.1
            (follows_flatMap opens between here.2 ends.1)
            (follows_flatMap opens between here'.2 ends'.1) same
          obtain ⟨equals, left⟩ := separates.flatMap opens between here.2 here'.2 ends ends' left
          exact ⟨by rw [equal, equals], left⟩

end Joined

end Warehouse
