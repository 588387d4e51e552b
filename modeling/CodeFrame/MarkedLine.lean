import CodeFrame.Text

/-!
# Marked lines

A `MarkedLine` is the text of a line with a marked range of columns. The columns are any integers, and the parts of the
line are cut at them as signed bounds; `MarkedLine.clamped` moves them into the text (`MarkedLine.clamped_bounds`).
-/

namespace CodeFrame

/-- A line and its marked range, from column `start` on and before column `stop`. -/
structure MarkedLine where
  text : Text
  start : Int
  stop : Int
  deriving DecidableEq

namespace MarkedLine

/-- The line with both columns moved into its text, and the end not before the start. -/
def clamped (text : Text) (start stop : Int) : MarkedLine :=
  ⟨text, max 0 (min start text.length), max (max 0 (min start text.length)) (min stop text.length)⟩

/-- How wide the marked range is. -/
def width (m : MarkedLine) : Int := m.stop - m.start

/-- The text before the mark. -/
def before (m : MarkedLine) : Text := m.text.sliceTo m.start

/-- The marked text. -/
def marked (m : MarkedLine) : Text := m.text.slice m.start m.stop

/-- The text after the mark. -/
def after (m : MarkedLine) : Text := m.text.sliceFrom m.stop

@[simp] theorem text_clamped (t : Text) (a b : Int) : (clamped t a b).text = t := rfl

/-- The columns of a clamped line lie in its text and are in order. -/
theorem clamped_bounds (t : Text) (a b : Int) :
    0 ≤ (clamped t a b).start ∧ (clamped t a b).start ≤ (clamped t a b).stop ∧ (clamped t a b).stop ≤ t.length := by
  simp only [clamped]
  omega

/-- Clamping makes no range wider. -/
theorem width_clamped_le (t : Text) (a b : Int) : (clamped t a b).width ≤ max 0 (b - a) := by
  simp only [clamped, width]
  omega

end MarkedLine

end CodeFrame
