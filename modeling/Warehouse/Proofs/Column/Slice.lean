import Mathlib.Data.List.Nodup
import Warehouse.Access

/-! # Slices of column lists

The positions of a slice lie within the list and rise or fall, as the sign of the step says
(`Slice.pairwise_positions`). So a slice of a column list has some of its columns in their order
or in the reverse order (`Columns.sublist_of_slice`), and their names are distinct
(`Columns.nodup_of_slice`). It is refused for a step of zero only
(`Columns.slice_eq_error_iff`). -/

namespace Warehouse

namespace Slice

variable {α : Type} {slice : Slice} {size : Nat} {positions : List Nat}

theorem positions?_eq_none_iff : slice.positions? size = none ↔ slice.step = some 0 := by
  have zero : slice.step.getD 1 = 0 ↔ slice.step = some 0 := by
    cases slice.step <;> simp
  unfold positions?
  dsimp only
  split
  · rename_i stands
    exact iff_of_true rfl (zero.mp stands)
  · rename_i moves
    exact iff_of_false (Option.some_ne_none _) (mt zero.mpr moves)

/-- A bound that is given is moved into the admitted positions, and one that is not is among
them anyway. -/
theorem bound_mem {lowest highest standard : Int} (admitted : lowest ≤ standard)
    (kept : standard ≤ highest) (given : Option Int) :
    lowest ≤ given.elim standard (position size lowest highest) ∧
      given.elim standard (position size lowest highest) ≤ highest := by
  cases given with
  | none => exact ⟨admitted, kept⟩
  | some bound =>
      simp only [Option.elim_some, position]
      omega

/-- Fewer steps than are counted do not reach the end of the distance. -/
theorem mul_lt_of_lt_stepCount {distance width : Int} {taken : Nat} (wide : 0 < width)
    (counted : taken < stepCount distance width) : taken * width < distance := by
  have below : (taken : Int) + 1 ≤ (distance + width - 1) / width := by
    unfold stepCount at counted
    omega
  have product := (Int.le_ediv_iff_mul_le wide).mp below
  rw [Int.add_mul, Int.one_mul] at product
  omega

/-- The positions that are taken forwards. -/
theorem positions?_of_pos (forward : 0 < slice.step.getD 1) :
    let start := slice.start.elim 0 (position size 0 size)
    let stop := slice.stop.elim (size : Int) (position size 0 size)
    slice.positions? size = some ((List.range (stepCount (stop - start) (slice.step.getD 1))).map
      fun (taken : Nat) => (start + taken * slice.step.getD 1).toNat) := by
  obtain ⟨start, stop, step⟩ := slice
  have moves : step.getD 1 ≠ 0 := Int.ne_of_gt forward
  cases start <;> cases stop <;>
    simp only [positions?, if_neg moves, if_pos forward, Option.elim_none, Option.elim_some]

/-- The positions that are taken backwards. -/
theorem positions?_of_neg (backward : slice.step.getD 1 < 0) :
    let start := slice.start.elim (size - 1 : Int) (position size (-1) (size - 1))
    let stop := slice.stop.elim (-1) (position size (-1) (size - 1))
    slice.positions? size = some ((List.range (stepCount (start - stop) (-slice.step.getD 1))).map
      fun (taken : Nat) => (start + taken * slice.step.getD 1).toNat) := by
  obtain ⟨start, stop, step⟩ := slice
  have moves : step.getD 1 ≠ 0 := Int.ne_of_lt backward
  have other : ¬ 0 < step.getD 1 := Int.lt_asymm backward
  cases start <;> cases stop <;>
    simp only [positions?, if_neg moves, if_neg other, Option.elim_none, Option.elim_some]

/-- The positions are taken in steps from a start, all within the list. -/
theorem exists_start (found : slice.positions? size = some positions) :
    ∃ (start : Int) (steps : Nat),
      positions = (List.range steps).map
        (fun (taken : Nat) => (start + taken * slice.step.getD 1).toNat) ∧
      ∀ taken < steps, 0 ≤ start + taken * slice.step.getD 1 ∧
        start + taken * slice.step.getD 1 < size := by
  have count : (0 : Int) ≤ size := Int.natCast_nonneg size
  rcases Int.lt_trichotomy (slice.step.getD 1) 0 with backward | zero | forward
  · rw [positions?_of_neg backward] at found
    refine ⟨_, _, (Option.some.inj found).symm, fun taken counted => ?_⟩
    have reached := mul_lt_of_lt_stepCount (Int.neg_pos_of_neg backward) counted
    have start := @bound_mem size (-1) (size - 1) (size - 1) (by omega) (by omega) slice.start
    have stop := @bound_mem size (-1) (size - 1) (-1) (by omega) (by omega) slice.stop
    have behind : taken * slice.step.getD 1 ≤ 0 :=
      Int.mul_nonpos_of_nonneg_of_nonpos (Int.natCast_nonneg taken) (Int.le_of_lt backward)
    rw [Int.mul_neg] at reached
    omega
  · rw [positions?, if_pos zero] at found
    cases found
  · rw [positions?_of_pos forward] at found
    refine ⟨_, _, (Option.some.inj found).symm, fun taken counted => ?_⟩
    have reached := mul_lt_of_lt_stepCount forward counted
    have start := @bound_mem size 0 size 0 (by omega) (by omega) slice.start
    have stop := @bound_mem size 0 size size (by omega) (by omega) slice.stop
    have ahead : 0 ≤ taken * slice.step.getD 1 :=
      Int.mul_nonneg (Int.natCast_nonneg taken) (Int.le_of_lt forward)
    omega

/-- Every position is in the list. -/
theorem lt_of_mem_positions (found : slice.positions? size = some positions) :
    ∀ position ∈ positions, position < size := by
  obtain ⟨start, steps, rfl, within⟩ := exists_start found
  intro position member
  obtain ⟨taken, counted, rfl⟩ := List.mem_map.mp member
  have inside := within taken (List.mem_range.mp counted)
  omega

/-- The positions rise or fall, as the step does. -/
theorem pairwise_positions (found : slice.positions? size = some positions) :
    positions.Pairwise fun first second =>
      if 0 < slice.step.getD 1 then first < second else second < first := by
  have moves : slice.step.getD 1 ≠ 0 := by
    intro zero
    rw [positions?, if_pos zero] at found
    cases found
  obtain ⟨start, steps, rfl, within⟩ := exists_start found
  rw [List.pairwise_map]
  refine List.pairwise_lt_range.imp_of_mem fun {first second} here there less => ?_
  have inside := within first (List.mem_range.mp here)
  have insideToo := within second (List.mem_range.mp there)
  generalize slice.step.getD 1 = step at moves inside insideToo ⊢
  have apart : (second : Int) * step = first * step + (second - first : Int) * step := by
    rw [← Int.add_mul]
    congr 1
    omega
  split
  · rename_i forward
    have more := Int.mul_pos (show (0 : Int) < second - first by omega) forward
    omega
  · rename_i other
    have less := Int.mul_neg_of_pos_of_neg (show (0 : Int) < second - first by omega)
      (show step < 0 by omega)
    omega

/-! ## Items -/

/-- Items at rising positions are a part of the list in its order. -/
theorem sublist_of_pairwise_lt {items : List α} (inside : ∀ position ∈ positions,
    position < items.length) (rising : positions.Pairwise (· < ·)) :
    (positions.filterMap (items[·]?)).Sublist items := by
  have known : positions.filterMap (items[·]?) =
      (positions.pmap Fin.mk inside).map (items[·]) := by
    rw [List.map_pmap]
    clear rising
    induction positions with
    | nil => rfl
    | cons first rest ih =>
        obtain ⟨here, behind⟩ := List.forall_mem_cons.mp inside
        rw [List.filterMap_cons_some (List.getElem?_eq_getElem here), ih behind]
        rfl
  rw [known]
  apply List.map_getElem_sublist
  rw [List.pairwise_pmap]
  exact rising.imp fun less _ _ => less

/-- Whatever is picked from a list is a part of it, in its order or in the reverse order. -/
theorem sublist_of_pick {items picked : List α} (found : slice.pick? items = some picked) :
    picked.Sublist (if 0 < slice.step.getD 1 then items else items.reverse) := by
  obtain ⟨positions, placed, rfl⟩ := Option.map_eq_some_iff.mp found
  have inside := lt_of_mem_positions placed
  have ordered := pairwise_positions placed
  split
  · rename_i forward
    simp only [if_pos forward] at ordered
    exact sublist_of_pairwise_lt inside ordered
  · rename_i other
    simp only [if_neg other] at ordered
    rw [List.sublist_reverse_iff, ← List.filterMap_reverse]
    exact sublist_of_pairwise_lt (by simpa using inside) (List.pairwise_reverse.mpr ordered)

theorem pick?_eq_none_iff {items : List α} : slice.pick? items = none ↔ slice.step = some 0 :=
  Option.map_eq_none_iff.trans positions?_eq_none_iff

theorem filterMap_range (items : List α) (count : Nat) :
    (List.range count).filterMap (items[·]?) = items.take count := by
  induction count with
  | zero => rfl
  | succ count ih =>
      rw [List.range_succ, List.filterMap_append, ih, List.take_add_one]
      cases found : items[count]? <;> simp [found]

/-- Between two positions in the list, everything is picked from the first up to the second. -/
theorem pick?_between {items : List α} {start stop : Nat} (ordered : start ≤ stop)
    (inside : stop ≤ items.length) :
    pick? ⟨some start, some stop, none⟩ items = some ((items.drop start).take (stop - start)) := by
  have front : position items.length 0 items.length start = start := by
    unfold position
    omega
  have back : position items.length 0 items.length stop = stop := by
    unfold position
    omega
  have steps : stepCount (stop - start : Int) 1 = stop - start := by
    unfold stepCount
    omega
  have positions := @positions?_of_pos ⟨some start, some stop, none⟩ items.length Int.one_pos
  simp only [Option.elim_some, Option.getD_none, front, back, steps, Int.mul_one] at positions
  rw [pick?, positions, Option.map_some, List.filterMap_map, ← filterMap_range]
  congr 2
  funext taken
  rw [List.getElem?_drop]
  rfl

end Slice

namespace Columns

variable {columns : Columns} {slice : Slice} {picked : List Column} {failure : Failure}

/-- A slice is refused for a step of zero, and for nothing else. -/
theorem slice_eq_error_iff : columns.slice slice = .error failure ↔
    slice.step = some 0 ∧ failure = .usage .zeroStep := by
  rw [← @Slice.pick?_eq_none_iff _ _ columns.toList, Columns.slice]
  cases slice.pick? columns.toList <;> simp [eq_comm]

/-- Between two positions in the list, a slice has all columns from the first up to the second. -/
theorem slice_between {start stop : Nat} (ordered : start ≤ stop) (inside : stop ≤ columns.size) :
    columns.slice ⟨some start, some stop, none⟩ =
      .ok ((columns.toList.drop start).take (stop - start)) := by
  rw [Columns.slice, Slice.pick?_between ordered inside]

/-- A slice has some of the columns in their order or in the reverse order, as its step says. -/
theorem sublist_of_slice (sliced : columns.slice slice = .ok picked) :
    picked.Sublist (if 0 < slice.step.getD 1 then columns.toList else columns.toList.reverse) := by
  unfold Columns.slice at sliced
  split at sliced
  · rename_i found
    cases sliced
    exact Slice.sublist_of_pick found
  · cases sliced

/-- No two columns of a slice have one name. -/
theorem nodup_of_slice (sliced : columns.slice slice = .ok picked) :
    (picked.map (·.name.comparable)).Nodup := by
  have part := (sublist_of_slice sliced).map (·.name.comparable)
  split at part
  · exact columns.nodup.sublist part
  · rw [List.map_reverse] at part
    exact (List.nodup_reverse.mpr columns.nodup).sublist part

end Columns

end Warehouse
