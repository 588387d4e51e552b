import CodeFrame.Limits
import CodeFrame.MarkedLine

/-!
# Shortening marked lines

Two rules make a marked line fit its limits. `MarkedLine.elideMark` leaves out the middle of a mark that is too wide,
`MarkedLine.window` leaves out what is far from the mark on a line that is too long. `MarkedLine.shorten` applies them
in this order. A line that fits is returned as it is, whatever its columns; any other result is clamped. A shortened mark
is never too wide (`MarkedLine.width_shorten_le`).
-/

namespace CodeFrame.MarkedLine

/-- Leaves out the middle of a mark that is too wide. -/
def elideMark (l : Limits) (m : MarkedLine) : MarkedLine :=
  if m.width ≤ l.mark then m
  else
    clamped (m.text.sliceTo (m.start + l.context) ++ Mark.gap ++ m.text.sliceFrom (max 0 (m.stop - l.context)))
      m.start (m.start + l.elided)

/-- The text round the mark, at most the context on each side of it. -/
def windowText (l : Limits) (m : MarkedLine) : Text :=
  m.text.slice (max 0 (m.start - l.context))
    (max 0 (m.start - l.context) +
      (min m.start l.context + min (m.width + l.context) (m.text.length - m.start)))

/-- Whether text is left out before the window. -/
def cutsHead (l : Limits) (m : MarkedLine) : Bool := l.context < m.start

/-- Whether text is left out after the window. -/
def cutsTail (l : Limits) (m : MarkedLine) : Bool := m.start + m.width + l.context < m.text.length

/-- The column at which the mark starts in the window. -/
def windowStart (l : Limits) (m : MarkedLine) : Int := if m.cutsHead l then l.shiftedStart else m.start

/-- Leaves out what is far from the mark on a line that is too long. -/
def window (l : Limits) (m : MarkedLine) : MarkedLine :=
  if m.text.length ≤ l.line then m
  else
    clamped
      ((if m.cutsHead l then Mark.gap else []) ++ m.windowText l ++ (if m.cutsTail l then Mark.cut else []))
      (m.windowStart l) (m.windowStart l + m.width)

/-- Makes a line fit: first its mark, then the whole line. -/
def shorten (l : Limits) (m : MarkedLine) : MarkedLine := (m.elideMark l).window l

/-- A mark that fits is kept, whatever its columns. -/
theorem elideMark_eq_self {l : Limits} {m : MarkedLine} (h : m.width ≤ l.mark) : m.elideMark l = m := if_pos h

/-- A line that fits is kept, whatever its columns. -/
theorem window_eq_self {l : Limits} {m : MarkedLine} (h : m.text.length ≤ l.line) : m.window l = m := if_pos h

/-! No mark is too wide afterwards, whatever the columns of the line were. -/

theorem width_elideMark_le (l : Limits) (m : MarkedLine) : (m.elideMark l).width ≤ l.mark := by
  by_cases h : m.width ≤ l.mark
  · rw [elideMark_eq_self h]
    exact h
  · have hroom := l.elided_le_mark
    unfold elideMark
    rw [if_neg h]
    refine Int.le_trans (width_clamped_le _ _ _) ?_
    unfold Limits.elided
    omega

theorem width_window_le (l : Limits) (m : MarkedLine) : (m.window l).width ≤ max 0 m.width := by
  by_cases h : m.text.length ≤ l.line
  · rw [window_eq_self h]
    omega
  · unfold window
    rw [if_neg h]
    refine Int.le_trans (width_clamped_le _ _ _) ?_
    omega

theorem width_shorten_le (l : Limits) (m : MarkedLine) : (m.shorten l).width ≤ l.mark := by
  have helide := width_elideMark_le l m
  have hwindow := width_window_le l (m.elideMark l)
  unfold shorten
  omega

end CodeFrame.MarkedLine
