/-!
# Text as a list of code points

Offsets, columns and widths all count code points, so a `Text` is the list of them.

- Slices with signed bounds (`Text.slice`, `Text.sliceTo`, `Text.sliceFrom`): a negative bound counts from the end of
  the text, and a bound that still lies outside is moved to the nearer end. Inside the text they are `take` and `drop`
  (`Text.slice_natCast`), and cutting at any one bound loses nothing (`Text.sliceTo_append_sliceFrom`).
- `Text.spaces`, and `Text.blanked`, which leaves tabs standing so that what follows stays under the same tab stops.
-/

namespace CodeFrame

/-- A text, one code point at a time. -/
abbrev Text := List Char

namespace Text

/-! ## Slices with signed bounds -/

/-- The place a signed bound stands for: a negative one counts from the end. -/
def bound (t : Text) (i : Int) : Nat := if i < 0 then (i + t.length).toNat else i.toNat

/-- The characters from `lo` on and before `hi`, none if the bounds are out of order. -/
def slice (t : Text) (lo hi : Int) : Text := (t.take (bound t hi)).drop (bound t lo)

/-- The characters before `hi`. -/
def sliceTo (t : Text) (hi : Int) : Text := t.take (bound t hi)

/-- The characters from `lo` on. -/
def sliceFrom (t : Text) (lo : Int) : Text := t.drop (bound t lo)

@[simp] theorem bound_natCast (t : Text) (n : Nat) : bound t (n : Int) = n := by
  simp [bound, Int.not_lt.mpr (Int.natCast_nonneg n)]

@[simp] theorem slice_natCast (t : Text) (lo hi : Nat) : slice t lo hi = (t.take hi).drop lo := by
  simp [slice]

@[simp] theorem sliceTo_natCast (t : Text) (hi : Nat) : sliceTo t hi = t.take hi := by
  simp [sliceTo]

@[simp] theorem sliceFrom_natCast (t : Text) (lo : Nat) : sliceFrom t lo = t.drop lo := by
  simp [sliceFrom]

/-- Cutting at one bound, wherever it lies, loses nothing. -/
theorem sliceTo_append_sliceFrom (t : Text) (i : Int) : sliceTo t i ++ sliceFrom t i = t :=
  List.take_append_drop _ _

/-! ## Blank text -/

/-- A run of `n` spaces. -/
def spaces (n : Nat) : Text := List.replicate n ' '

/-- The text with every character but the tabs replaced by a space. -/
def blanked (t : Text) : Text := t.map fun c => if c = '\t' then '\t' else ' '

@[simp] theorem length_spaces (n : Nat) : (spaces n).length = n := List.length_replicate

theorem notMem_spaces {c : Char} (hc : c ≠ ' ') (n : Nat) : c ∉ spaces n := fun h => hc (List.eq_of_mem_replicate h)

@[simp] theorem length_blanked (t : Text) : (blanked t).length = t.length := List.length_map _

end Text

end CodeFrame
