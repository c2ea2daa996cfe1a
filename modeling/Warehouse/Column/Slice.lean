/-! # Slices

A slice picks positions of a list by a start, a stop and a step. Bounds left out
mean the ends of the list, seen in the direction of the step; negative bounds
count from the end; bounds outside the list are moved to its ends. -/

namespace Warehouse

/-- A start, a stop and a step, each of which may be left out. -/
structure Slice where
  start : Option Int
  stop : Option Int
  step : Option Int
deriving DecidableEq, Repr

namespace Slice

/-- A bound as a position: negative bounds count from the end, and the result is
kept between the lowest and the highest admitted position. -/
def position (size lowest highest bound : Int) : Int :=
  max lowest (min highest (if bound < 0 then bound + size else bound))

/-- The number of steps of a given positive width from a position to one that is
not reached. -/
def stepCount (distance width : Int) : Nat :=
  ((distance + width - 1) / width).toNat

/-- The positions that a slice picks from a list of the given size, in the order
of the slice. There are none for a step of zero, which is refused. -/
def positions? (slice : Slice) (size : Nat) : Option (List Nat) :=
  let step := slice.step.getD 1
  if step = 0 then none
  else
    let count : Int := size
    let forward := 0 < step
    let lowest := if forward then 0 else -1
    let highest := if forward then count else count - 1
    let start := match slice.start with
      | some bound => position count lowest highest bound
      | none => if forward then lowest else highest
    let stop := match slice.stop with
      | some bound => position count lowest highest bound
      | none => if forward then highest else lowest
    let steps := if forward then stepCount (stop - start) step
      else stepCount (start - stop) (-step)
    some ((List.range steps).map fun (taken : Nat) => (start + taken * step).toNat)

/-- The items of a list at the positions of a slice. -/
def pick? {α : Type} (slice : Slice) (items : List α) : Option (List α) :=
  (slice.positions? items.length).map fun positions =>
    positions.filterMap fun position => items[position]?

end Slice

end Warehouse
