/-! # Signed positions and slices

A position in a list may be given from its end by a negative index. A slice picks the items from
one bound towards another in steps of either sign; bounds outside the list are moved to its ends.
-/

namespace SourceScan

/-- The position that an index names in a list of a given length. A negative index counts from the
end. -/
def position? (length : Nat) (index : Int) : Option Nat :=
  if 0 ≤ index then
    if index < length then some index.toNat else none
  else if -length ≤ index then some (length + index).toNat
  else none

/-- The place of a bound in a list of a given length: a negative bound counts from the end, and a
place outside the list moves to its nearer end. -/
def clampBound (length : Nat) (bound : Int) : Nat :=
  if bound < 0 then (length + bound).toNat else min bound.toNat length

/-- The items from one bound up to another. -/
def between {α : Type} (items : List α) (start stop : Int) : List α :=
  (items.take (clampBound items.length stop)).drop (clampBound items.length start)

/-- A choice of items: from one bound, towards another, in steps. -/
structure Slice where
  start : Option Int
  stop : Option Int
  step : Option Int

namespace Slice

/-- The place of a bound for steps of a given sign. Walking down, the place before the first item
can be reached and the place behind the last one cannot. -/
def place (length : Nat) (descending : Bool) (bound : Int) : Int :=
  let lowest : Int := if descending then -1 else 0
  let highest : Int := if descending then length - 1 else length
  if bound < 0 then max (bound + length) lowest else min bound highest

/-- How many steps of a given width fit between two places. -/
def count (start stop step : Int) : Nat :=
  if 0 < step then ((stop - start + step - 1) / step).toNat
  else ((start - stop - step - 1) / -step).toNat

/-- The items that a slice picks, in its order; there are none to name when the step is zero. -/
def pick? {α : Type} (slice : Slice) (items : List α) : Option (List α) :=
  let step := slice.step.getD 1
  if step = 0 then none
  else
    let descending := decide (step < 0)
    let length := items.length
    let start := match slice.start with
      | some bound => place length descending bound
      | none => if descending then length - 1 else 0
    let stop := match slice.stop with
      | some bound => place length descending bound
      | none => if descending then -1 else length
    some ((List.range (count start stop step)).filterMap fun (k : Nat) =>
      items[(start + k * step).toNat]?)

end Slice

end SourceScan
