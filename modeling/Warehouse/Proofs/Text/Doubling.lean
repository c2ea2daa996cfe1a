import Mathlib.Algebra.Group.Nat.Even
import Warehouse.Quoting

/-! # Doubled marks

Reading every pair of marks as one mark undoes writing every mark twice. The other way
round a text comes back only if its marks stand in longest runs of even length
(`doubleMark_undoubleMark_iff`): the last mark of an odd run has no partner, so it is read
as it stands and written twice. -/

namespace Warehouse

variable {mark c : Char} {chars rest before behind : List Char} {count : Nat}

/-! ## Writing and reading one character -/

theorem doubleMark_cons_mark : doubleMark mark (mark :: rest) =
    mark :: mark :: doubleMark mark rest := by
  simp [doubleMark]

theorem doubleMark_cons_of_ne (other : c ≠ mark) :
    doubleMark mark (c :: rest) = c :: doubleMark mark rest := by
  simp [doubleMark, other]

theorem undoubleMark_pair :
    undoubleMark mark (mark :: mark :: rest) = mark :: undoubleMark mark rest := by
  simp [undoubleMark]

theorem undoubleMark_cons_of_ne (other : c ≠ mark) :
    undoubleMark mark (c :: rest) = c :: undoubleMark mark rest := by
  cases rest <;> simp [undoubleMark, other]

/-- A text whose marks are doubled is read back. -/
theorem undoubleMark_doubleMark (mark : Char) (chars : List Char) :
    undoubleMark mark (doubleMark mark chars) = chars := by
  induction chars with
  | nil => rfl
  | cons c rest ih =>
      by_cases marks : c = mark
      · subst marks
        rw [doubleMark_cons_mark, undoubleMark_pair, ih]
      · rw [doubleMark_cons_of_ne marks, undoubleMark_cons_of_ne marks, ih]

/-! ## Runs of marks -/

/-- A longest run of a mark in a text: the mark stands neither in front of it nor behind it. -/
structure IsLongestRun (mark : Char) (chars before : List Char) (count : Nat)
    (behind : List Char) : Prop where
  split : chars = before ++ (List.replicate count mark ++ behind)
  starts : before.getLast? ≠ some mark
  ends : behind.head? ≠ some mark

/-- Every longest run of the mark has even length. -/
def EvenRuns (mark : Char) (chars : List Char) : Prop :=
  ∀ before count behind, IsLongestRun mark chars before count behind → Even count

theorem getLast?_cons_ne (other : c ≠ mark) (starts : before.getLast? ≠ some mark) :
    (c :: before).getLast? ≠ some mark := by
  cases before with
  | nil => simpa using other
  | cons first others => rwa [List.getLast?_cons_cons]

theorem getLast?_ne_of_cons (starts : (c :: before).getLast? ≠ some mark) :
    before.getLast? ≠ some mark := by
  cases before with
  | nil => simp
  | cons first others => rwa [List.getLast?_cons_cons] at starts

/-- Behind a character other than the mark the runs are the same. -/
theorem evenRuns_cons_of_ne (other : c ≠ mark) :
    EvenRuns mark (c :: rest) ↔ EvenRuns mark rest := by
  constructor
  · intro even before count behind run
    exact even (c :: before) count behind
      ⟨by rw [run.split, List.cons_append], getLast?_cons_ne other run.starts, run.ends⟩
  · intro even before count behind run
    cases before with
    | nil =>
        cases count with
        | zero => exact Even.zero
        | succ count =>
            have split := run.split
            rw [List.nil_append, List.replicate_succ, List.cons_append, List.cons.injEq] at split
            exact absurd split.1 other
    | cons first before =>
        have split := run.split
        rw [List.cons_append, List.cons.injEq] at split
        exact even before count behind ⟨split.2, getLast?_ne_of_cons run.starts, run.ends⟩

/-- Two more marks in front make a run longer by two. -/
theorem evenRuns_pair : EvenRuns mark (mark :: mark :: rest) ↔ EvenRuns mark rest := by
  constructor
  · intro even before count behind run
    cases before with
    | nil =>
        have longer : Even (count + 2) := even [] (count + 2) behind
          ⟨by rw [run.split]; rfl, run.starts, run.ends⟩
        exact (Nat.even_add.mp longer).mpr (by decide)
    | cons first before =>
        exact even (mark :: mark :: first :: before) count behind
          ⟨by rw [run.split]; rfl, by simpa using run.starts, run.ends⟩
  · intro even before count behind run
    have split := run.split
    match before, count with
    | [], 0 => exact Even.zero
    | [], 1 =>
        rw [List.nil_append, List.replicate_one, List.singleton_append, List.cons.injEq] at split
        exact absurd (congrArg List.head? split.2).symm run.ends
    | [], count + 2 =>
        have shorter : Even count := even [] count behind
          ⟨(List.cons.inj (List.cons.inj split).2).2, run.starts, run.ends⟩
        exact shorter.add (by decide)
    | [first], count =>
        have same : mark = first := (List.cons.inj split).1
        exact absurd (by rw [same]; rfl) run.starts
    | first :: second :: before, count =>
        exact even before count behind ⟨(List.cons.inj (List.cons.inj split).2).2,
          getLast?_ne_of_cons (getLast?_ne_of_cons run.starts), run.ends⟩

/-- A mark with no other one behind it is a run of odd length. -/
theorem not_evenRuns_lone (ends : rest.head? ≠ some mark) : ¬ EvenRuns mark (mark :: rest) :=
  fun even => Nat.not_even_one (even [] 1 rest ⟨rfl, by simp, ends⟩)

theorem evenRuns_nil : EvenRuns mark [] := by
  intro before count behind run
  have empty := run.split.symm
  simp only [List.append_eq_nil_iff, List.replicate_eq_nil_iff] at empty
  rw [empty.2.1]
  exact Even.zero

/-- A text is read and written back unchanged exactly if all its longest runs of the mark
have even length. -/
theorem doubleMark_undoubleMark_iff (mark : Char) (chars : List Char) :
    doubleMark mark (undoubleMark mark chars) = chars ↔ EvenRuns mark chars := by
  fun_induction undoubleMark mark chars with
  | case1 first second rest pair ih =>
      obtain ⟨rfl, rfl⟩ := pair
      rw [doubleMark_cons_mark, List.cons_inj_right, List.cons_inj_right, ih, evenRuns_pair]
  | case2 first second rest noPair ih =>
      by_cases marks : first = mark
      · subst marks
        have alone : second ≠ first := fun same => noPair ⟨rfl, same⟩
        rw [doubleMark_cons_mark, List.cons_inj_right, List.cons.injEq]
        exact iff_of_false (fun same => alone same.1.symm)
          (not_evenRuns_lone (by simpa using alone))
      · rw [doubleMark_cons_of_ne marks, List.cons_inj_right, ih, evenRuns_cons_of_ne marks]
  | case3 chars short =>
      match chars with
      | [] => exact iff_of_true rfl evenRuns_nil
      | [c] =>
          by_cases marks : c = mark
          · subst marks
            exact iff_of_false (by simp [doubleMark]) (not_evenRuns_lone (by simp))
          · rw [doubleMark_cons_of_ne marks, evenRuns_cons_of_ne marks]
            exact iff_of_true rfl evenRuns_nil
      | first :: second :: rest => exact absurd rfl (short first second rest)

instance (mark : Char) (chars : List Char) : Decidable (EvenRuns mark chars) :=
  decidable_of_iff _ (doubleMark_undoubleMark_iff mark chars)

end Warehouse
