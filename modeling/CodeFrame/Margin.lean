import CodeFrame.Fault

/-!
# The margin of an excerpt

The margin holds the number of a line; the rows without a number leave as much room (`Margin.width`), or are refused if
the numeral is too long. Below the source row, `Margin.under` fills the columns before the carets, tabs kept as tabs.

The room for a number that is not refused is told without its numeral by `Margin.room` (`Margin.width_eq`).
-/

namespace CodeFrame.Margin

/-- The room for a line number: its digits, and one column for a number that is not positive. -/
def width (line : Int) : Except Fault Nat := if line ≤ 0 then .ok 1 else (Text.numeral line).map List.length

/-- The digits of a line number, of which a negative one counts as zero. -/
def room (line : Int) : Nat := (Text.digits line.toNat).length

theorem room_of_nonpos {line : Int} (h : line ≤ 0) : room line = 1 := by
  unfold room
  rw [Int.toNat_of_nonpos h]
  rfl

@[simp] theorem room_natCast (n : Nat) : room n = (Text.digits n).length := rfl

/-- The margin has its room, or it is refused: then the number is positive, and its numeral too long. -/
theorem width_eq (line : Int) :
    width line = if Text.Fits line.toNat then .ok (room line) else .error .numeralTooLong := by
  unfold width
  by_cases h : line ≤ 0
  · rw [if_pos h, room_of_nonpos h, Int.toNat_of_nonpos h]
    rfl
  · obtain ⟨n, rfl⟩ := Int.eq_ofNat_of_zero_le (Int.le_of_lt (Int.not_le.1 h))
    rw [if_neg h, Int.toNat_natCast]
    unfold Text.numeral
    split <;> rfl

/-- What stands under the text before a column. -/
def under (t : Text) (column : Int) : Text := (t.sliceTo column).blanked

end CodeFrame.Margin
