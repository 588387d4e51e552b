import CodeFrame.Text

/-!
# Positions and views of a source

A `Position` is a line and a column, both counted from zero. A `LineView` is whatever answers for a source: for an
offset it tells the text of the line and the position. Nothing is asked of the answers, so a view may contradict itself.
-/

namespace CodeFrame

/-- A line and a column, both counted from zero. -/
structure Position where
  line : Int
  column : Int
  deriving DecidableEq

/-- What answers for a source: the text of the line round an offset, and the position of an offset. -/
structure LineView where
  lineAt : Nat → Text
  position : Nat → Position

end CodeFrame
