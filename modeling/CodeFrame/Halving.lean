/-!
# Halving search

`Halving.last? a key` looks for the last entry of an increasing array that is not above `key`. The two ends close in on
it; the midpoint is rounded up, so that it always lies above the left end and either half is smaller than the whole.
Reads are checked: the search has no answer if it would read outside the array.
-/

namespace CodeFrame.Halving

/-- The last index from `left` to `right` whose entry is at most `key`, given that the entry at `left` is. -/
def between? (a : Array Nat) (key left right : Nat) : Option Nat :=
  if left < right then
    match a[(left + right + 1) / 2]? with
    | some value =>
      if value ≤ key then between? a key ((left + right + 1) / 2) right
      else between? a key left ((left + right + 1) / 2 - 1)
    | none => none
  else some left
termination_by right - left

/-- The last index whose entry is at most `key`, given that the first entry is. -/
def last? (a : Array Nat) (key : Nat) : Option Nat := between? a key 0 (a.size - 1)

end CodeFrame.Halving
