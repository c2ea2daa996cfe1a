import Warehouse.Proofs.Text.Spelling

/-! # Condensed characters

The normal form of a text may hold characters of any kind, for instance in parentheses. Its
characters are the condensed characters of the text: in capitals, with one space for each run
of blanks (`Text.toList_capitalWords`). What stands in front of a word, of a gap or of a mark
is condensed by itself, so a text is condensed part by part. -/

namespace Warehouse.Text

/-! ## Condensing -/

/-- The characters in capitals, with one space for each run of blanks. The flag says that a
space stands in front of them. -/
def condensed (spaced : Bool) : List Char → List Char
  | [] => []
  | c :: rest =>
      if isBlank c then if spaced then condensed true rest else ' ' :: condensed true rest
      else capitals c ++ condensed false rest

variable {blanks word front back : List Char} {c : Char}

/-- Blanks behind a space are left out. -/
theorem condensed_blanks (blank : ∀ c ∈ blanks, isBlank c = true) (rest : List Char) :
    condensed true (blanks ++ rest) = condensed true rest := by
  induction blanks with
  | nil => rfl
  | cons c blanks ih =>
      rw [List.forall_mem_cons] at blank
      rw [List.cons_append, condensed, if_pos blank.1, if_pos rfl, ih blank.2]

/-- A gap is one space. -/
theorem condensed_gap (present : blanks ≠ []) (blank : ∀ c ∈ blanks, isBlank c = true)
    (rest : List Char) : condensed false (blanks ++ rest) = ' ' :: condensed true rest := by
  obtain ⟨c, blanks, rfl⟩ := List.exists_cons_of_ne_nil present
  rw [List.forall_mem_cons] at blank
  rw [List.cons_append, condensed, if_pos blank.1, if_neg (by decide), condensed_blanks blank.2]

theorem condensed_append_cons (solid : isBlank c = false) (spaced : Bool) (rest : List Char) :
    condensed spaced (front ++ c :: rest) =
      condensed spaced front ++ (capitals c ++ condensed false rest) := by
  induction front generalizing spaced with
  | nil => simp [condensed, solid]
  | cons first front ih =>
      rw [List.cons_append, condensed, condensed]
      split
      · split
        · exact ih true
        · rw [ih true, List.cons_append]
      · rw [ih false, List.append_assoc]

/-- A word of ASCII is condensed to its capitals. -/
theorem condensed_word (present : word ≠ [])
    (solid : ∀ c ∈ word, c.toNat < 128 ∧ isBlank c = false) (spaced : Bool) (rest : List Char) :
    condensed spaced (word ++ rest) = word.map Char.toUpper ++ condensed false rest := by
  induction word generalizing spaced with
  | nil => exact absurd rfl present
  | cons c word ih =>
      rw [List.forall_mem_cons] at solid
      rw [List.cons_append, condensed, if_neg (Bool.eq_false_iff.mp solid.1.2),
        capitals_of_ascii solid.1.1, List.map_cons]
      cases word with
      | nil => rfl
      | cons next word => rw [ih (List.cons_ne_nil _ _) solid.2]; rfl

/-! ## Condensed words -/

/-- The characters do not end with a blank. -/
def EndsSolid (chars : List Char) : Prop := ∀ c ∈ chars.getLast?, isBlank c = false

theorem endsSolid_of_forall (solid : ∀ c ∈ word, isBlank c = false) : EndsSolid word :=
  fun c last => solid c (List.mem_of_getLast? last)

theorem EndsSolid.append (here : EndsSolid front) (there : EndsSolid back) :
    EndsSolid (front ++ back) := by
  intro c last
  rw [List.getLast?_append, Option.mem_def, Option.or_eq_some_iff] at last
  rcases last with behind | ⟨-, before⟩
  · exact there c behind
  · exact here c before

theorem EndsSolid.append_of_ne_nil (there : EndsSolid back) (present : back ≠ []) :
    EndsSolid (front ++ back) := by
  intro c last
  have whole := List.getLast?_eq_some_getLast present
  rw [List.getLast?_append, whole, Option.some_or, ← whole] at last
  exact there c last

theorem endsSolid_flatMap {α : Type} {items : List α} {write : α → List Char}
    (each : ∀ item ∈ items, EndsSolid (write item)) : EndsSolid (items.flatMap write) := by
  induction items with
  | nil => exact endsSolid_of_forall (List.forall_mem_nil _)
  | cons item items ih =>
      rw [List.forall_mem_cons] at each
      exact each.1.append (ih each.2)

variable {chars : List Char}

theorem EndsSolid.tail (ends : EndsSolid (c :: chars)) : EndsSolid chars := by
  intro last here
  exact ends last (by rw [List.getLast?_cons, Option.mem_def.mp here]; rfl)

theorem words_blank (blank : isBlank c = true) (rest : List Char) :
    words (c :: rest) = words rest ∧ firstWord (c :: rest) = ([], words rest) := by
  simp [words, firstWord, blank]

theorem words_solid (solid : isBlank c = false) (rest : List Char) :
    words (c :: rest) = (c :: (firstWord rest).1) :: (firstWord rest).2 ∧
      firstWord (c :: rest) = (c :: (firstWord rest).1, (firstWord rest).2) := by
  simp [words, firstWord, solid]

theorem EndsSolid.words_ne_nil (ends : EndsSolid chars) (present : chars ≠ []) :
    words chars ≠ [] := by
  induction chars with
  | nil => exact absurd rfl present
  | cons c rest ih =>
      cases blank : isBlank c with
      | false => simp [words_solid blank]
      | true =>
          have more : rest ≠ [] := by
            rintro rfl
            simp [ends c rfl] at blank
          rw [(words_blank blank rest).1]
          exact ih ends.tail more

/-- Condensed characters are the words in capitals with a space between them; what the
characters begin with is the first of them if no space stands in front. -/
theorem EndsSolid.condensed_eq (ends : EndsSolid chars) :
    condensed true chars = (squeezeChars chars).flatMap capitals ∧
      condensed false chars =
        ((firstWord chars).1 ++ (firstWord chars).2.flatMap (' ' :: ·)).flatMap capitals := by
  induction chars with
  | nil => exact ⟨rfl, rfl⟩
  | cons c rest ih =>
      obtain ⟨behind, joined⟩ := ih ends.tail
      cases blank : isBlank c with
      | false =>
          obtain ⟨whole, first⟩ := words_solid blank rest
          simp [condensed, blank, joined, squeezeChars, whole, first,
            intercalate_eq_append_flatMap]
      | true =>
          obtain ⟨whole, first⟩ := words_blank blank rest
          have same : squeezeChars (c :: rest) = squeezeChars rest := by
            rw [squeezeChars, squeezeChars, whole]
          refine ⟨by rw [condensed, if_pos blank, if_pos rfl, behind, same], ?_⟩
          have present : rest ≠ [] := by
            rintro rfl
            simp [ends c rfl] at blank
          obtain ⟨word, others, parts⟩ :=
            List.exists_cons_of_ne_nil (ends.tail.words_ne_nil present)
          rw [condensed, if_pos blank, if_neg (by decide), behind, squeezeChars, first, parts,
            intercalate_eq_append_flatMap]
          simp

/-! ## Words of a text -/

theorem firstWord_solid (solid : ∀ c ∈ word, isBlank c = false) (rest : List Char) :
    firstWord (word ++ rest) = (word ++ (firstWord rest).1, (firstWord rest).2) := by
  induction word with
  | nil => rfl
  | cons c word ih =>
      rw [List.forall_mem_cons] at solid
      rw [List.cons_append, (words_solid solid.1 _).2, ih solid.2]
      rfl

/-- A word with blanks behind it is the first one. -/
theorem words_append (present : word ≠ []) (solid : ∀ c ∈ word, isBlank c = false)
    (gap : blanks ≠ []) (blank : ∀ c ∈ blanks, isBlank c = true) (rest : List Char) :
    words (word ++ (blanks ++ rest)) = word :: words rest := by
  rw [words, firstWord_solid solid, firstWord_blanks gap blank, List.append_nil]
  simp [present]

/-- A word is the only one of itself. -/
theorem words_word (present : word ≠ []) (solid : ∀ c ∈ word, isBlank c = false) :
    words word = [word] := by
  have alone := firstWord_solid solid []
  rw [List.append_nil, firstWord, List.append_nil] at alone
  simp [words, alone, present]

/-- Blanks behind the words are no part of them. -/
theorem words_append_blanks (blank : ∀ c ∈ blanks, isBlank c = true) (chars : List Char) :
    words (chars ++ blanks) = words chars := by
  have nothing : firstWord blanks = firstWord [] := by
    cases blanks with
    | nil => rfl
    | cons c rest =>
        have gap := firstWord_blanks (List.cons_ne_nil c rest) blank []
        rwa [List.append_nil] at gap
  have same : firstWord (chars ++ blanks) = firstWord chars := by
    induction chars with
    | nil => exact nothing
    | cons c rest ih => rw [List.cons_append, firstWord, firstWord, ih]
  rw [words, words, same]

/-- **The normal form of a text is condensed part by part.** Blanks at its end are left out. -/
theorem toList_capitalWords (ends : EndsSolid chars) (blank : ∀ c ∈ blanks, isBlank c = true) :
    (capitalWords (String.ofList (chars ++ blanks))).toList = condensed true chars := by
  rw [capitalWords, toList_upper, toList_squeeze, String.toList_ofList, squeezeChars,
    words_append_blanks blank, ends.condensed_eq.1]
  rfl

/-! ## Marks -/

/-- No character beyond ASCII has a closing parenthesis in its capital form. -/
theorem not_mem_tableForm (beyond : 128 ≤ c.toNat) :
    ')' ∉ tableForm capitalSequences capitalRuns c := by
  have codeOf : ∀ code, Char.ofNat code = ')' → code = 41 := by
    intro code same
    by_cases valid : code.isValidChar
    · have whole : Char.ofNat code = Char.ofNatAux code valid := dif_pos valid
      exact congrArg Char.toNat (whole.symm.trans same)
    · have zero : Char.ofNat code = Char.ofNat 0 := dif_neg valid
      cases zero.symm.trans same
  intro member
  unfold tableForm at member
  split at member
  · rename_i codes found
    obtain ⟨code, inside, same⟩ := List.mem_map.mp member
    have free : ∀ entry ∈ capitalSequences, 41 ∉ entry.2 := by decide
    obtain ⟨before, after, whole, -⟩ := List.lookup_eq_some_iff.mp found
    have entry : (c.toNat, codes) ∈ capitalSequences := by simp [whole]
    exact free _ entry (codeOf code same ▸ inside)
  · have code := codeOf _ (List.mem_singleton.mp member).symm
    cases found : capitalRuns.findSome? fun run => run.counterpart? c.toNat with
    | none =>
        rw [found, Option.getD_none] at code
        omega
    | some counterpart =>
        rw [found, Option.getD_some] at code
        obtain ⟨run, here, told⟩ := List.exists_of_findSome?_eq_some found
        have high : ∀ run ∈ capitalRuns, 41 < run.first + run.distance := by decide +kernel
        have above := high run here
        unfold CaseRun.counterpart? at told
        split at told
        · have distance := Option.some.inj told
          omega
        · cases told

/-- Only a closing parenthesis has one in its capital form. -/
theorem eq_of_mem_capitals (member : ')' ∈ capitals c) : c = ')' := by
  by_cases ascii : c.toNat < 128
  · have all : ∀ c : Char, c.toNat < 128 → ')' ∈ capitals c → c = ')' := by
      apply forall_ascii
      decide
    exact all c ascii member
  · rw [capitals, if_neg ascii] at member
    exact absurd member (not_mem_tableForm (Nat.le_of_not_lt ascii))

theorem closed_condensed (closed : ')' ∉ chars) (spaced : Bool) :
    ')' ∉ condensed spaced chars := by
  induction chars generalizing spaced with
  | nil => exact List.not_mem_nil
  | cons c rest ih =>
      rw [List.mem_cons, not_or] at closed
      have space : ')' ≠ ' ' := by decide
      rw [condensed]
      split
      · split
        · exact ih closed.2 true
        · exact List.not_mem_cons_of_ne_of_not_mem space (ih closed.2 true)
      · rw [List.mem_append, not_or]
        exact ⟨fun member => closed.1 (eq_of_mem_capitals member).symm, ih closed.2 false⟩

end Warehouse.Text
