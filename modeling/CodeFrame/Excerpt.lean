import CodeFrame.Margin
import CodeFrame.MarkedLine.Shorten
import CodeFrame.Position
import CodeFrame.Span
import CodeFrame.Run

/-!
# Excerpts

An `Excerpt` shows where a span lies: five rows, namely a heading, an empty row inside the frame, the source, the carets
below it, and an empty row after the frame. If the span ends on the line it starts on, the marked text is underlined;
otherwise the mark reaches to the end of the first line, and one caret and a note stand below its start.

Of the numbers shown, those of the heading count from one; that of the margin counts from zero. A row is refused if one of
its numerals is too long, and ends the drawing.
-/

namespace CodeFrame

/-- What an excerpt shows. The line is already shortened. -/
structure Excerpt where
  name : Text
  start : Position
  stop : Position
  line : MarkedLine
  message : Text
  deriving DecidableEq

namespace Excerpt

/-! ## From a view -/

/-- The column at which the mark of a span ends: on another line, the mark reaches to the end of this one. -/
def stopColumn (v : LineView) (s : Span) : Int :=
  if (v.position s.start).line = (v.position s.stop).line then (v.position s.stop).column
  else (v.lineAt s.start).length

/-- The first line of a span with its mark, as it is in the source. -/
def wholeLine (v : LineView) (s : Span) : MarkedLine :=
  MarkedLine.clamped (v.lineAt s.start) (v.position s.start).column (stopColumn v s)

/-- The excerpt of a span, with what a view tells about its source. -/
def ofView (l : Limits) (v : LineView) (name : Text) (s : Span) (message : Text) : Excerpt where
  name
  start := v.position s.start
  stop := v.position s.stop
  line := (wholeLine v s).shorten l
  message

/-- Whether the span goes on after its first line. -/
def goesOn (e : Excerpt) : Bool := e.start.line ≠ e.stop.line

/-- The source with its mark. -/
def source (e : Excerpt) : List Run :=
  .bare e.line.before ::
    if e.goesOn then [.styled .highlight (e.line.text.sliceFrom e.line.start)]
    else [.styled .highlight e.line.marked, .bare e.line.after]

/-- One caret below each marked character, or one caret and the note. -/
def carets (e : Excerpt) : List Run :=
  if e.goesOn then
    [.bare (Text.spaces e.line.start.toNat), .styled .diagnostic (Mark.caret ++ ' ' :: Mark.continues)]
  else
    [.bare (Margin.under e.line.text e.line.start), .styled .diagnostic (Mark.carets e.line.width.toNat)]

/-! ## Rows -/

/-- Room for the line number. -/
def pad (line : Int) : Except Fault Run := do
  return .bare (Text.spaces (← Margin.width line))

/-- The arrow, the name of the source, and the line and column counted from one. -/
def heading (name : Text) (p : Position) : Except Fault (List Run) := do
  let pad ← pad p.line
  let line ← Text.numeral (p.line + 1)
  let column ← Text.numeral (p.column + 1)
  return [pad, .styled .frame Mark.arrow, .bare (name ++ ':' :: line ++ ':' :: column ++ ": ".toList)]

/-- The heading, and the message if there is one. -/
def headingRow (name message : Text) (p : Position) : Except Fault (List Run) := do
  return (← heading name p) ++ if message = [] then [] else [.styled .message message]

/-- The frame beside nothing. -/
def emptyRow (line : Int) : Except Fault (List Run) := do
  return [← pad line, .styled .frame Mark.bareFrame]

/-- The line number, and the source behind the frame. -/
def sourceRow (line : Int) (source : List Run) : Except Fault (List Run) := do
  return .styled .frame ((← Text.numeral line) ++ Mark.frame) :: source

/-- The carets behind the frame. -/
def caretRow (line : Int) (carets : List Run) : Except Fault (List Run) := do
  return [← pad line, .styled .frame Mark.frame] ++ carets

/-- The rows of an excerpt with the given source and carets. -/
def rows (name message : Text) (p : Position) (source carets : List Run) : List (Except Fault (List Run)) :=
  [headingRow name message p, emptyRow p.line, sourceRow p.line source, caretRow p.line carets, .ok []]

/-- The rows as far as they can be written. -/
def drawing (e : Excerpt) : Drawing := .ofRows (rows e.name e.message e.start e.source e.carets)

end Excerpt

end CodeFrame
