import CodeFrame.Halving
import CodeFrame.Position

/-!
# Line tables

A `LineTable` holds a text and the offsets at which its lines start (`lineStarts`). Each newline ends a line and starts
another one, so there is always a last line, perhaps an empty one. Positions are found by halving; an offset outside the
text is moved to its nearer end (`LineTable.clamp`). The text of a line leaves out the newline and one carriage return
before it.

A table is fixed by its text (`LineTable.eq_ofText`).
-/

namespace CodeFrame

/-- The offsets at which the lines of a text start. -/
def lineStarts (t : Text) : List Nat :=
  0 :: (t.zipIdx 1).filterMap fun (c, next) => if c = '\n' then some next else none

/-- The text without one carriage return at its end. -/
def withoutReturn (t : Text) : Text := if t.getLast? = some '\r' then t.dropLast else t

/-- A text and the offsets at which its lines start. -/
structure LineTable where
  source : Text
  starts : Array Nat
  starts_eq : starts = (lineStarts source).toArray

namespace LineTable

/-- The line table of a text. -/
def ofText (source : Text) : LineTable := ⟨source, (lineStarts source).toArray, rfl⟩

@[simp] theorem source_ofText (t : Text) : (ofText t).source = t := rfl

@[simp] theorem starts_ofText (t : Text) : (ofText t).starts = (lineStarts t).toArray := rfl

theorem eq_ofText : ∀ t : LineTable, t = ofText t.source
  | ⟨_, _, rfl⟩ => rfl

/-- The number of lines. -/
def lineCount (t : LineTable) : Nat := t.starts.size

/-- The offset, moved to the nearer end if it lies outside the text. -/
def clamp (t : LineTable) (offset : Int) : Nat := min offset.toNat t.source.length

/-- The line in which a place of the text lies. -/
def lineOf (t : LineTable) (place : Nat) : Nat := (Halving.last? t.starts place).getD 0

/-- The offset at which a line starts. -/
def startOf (t : LineTable) (line : Nat) : Nat := t.starts[line]?.getD 0

/-- The offset at which a line ends, before its newline if it has one. -/
def stopOf (t : LineTable) (line : Nat) : Nat :=
  match t.starts[line + 1]? with
  | some next => next - 1
  | none => t.source.length

/-- The line and the column of an offset. -/
def position (t : LineTable) (offset : Int) : Position :=
  ⟨t.lineOf (t.clamp offset), (t.clamp offset - t.startOf (t.lineOf (t.clamp offset)) : Nat)⟩

/-- The text of the line in which an offset lies. -/
def lineAt (t : LineTable) (offset : Int) : Text :=
  let line := t.lineOf (t.clamp offset)
  withoutReturn ((t.source.take (t.stopOf line)).drop (t.startOf line))

/-- What a line table answers for its text. -/
def view (t : LineTable) : LineView := ⟨fun offset => t.lineAt offset, fun offset => t.position offset⟩

/-! ## Questions -/

/-- What can be asked of a line table. -/
inductive Query where
  | position (offset : Int)
  | lineAt (offset : Int)
  | lineCount
  | source
  deriving DecidableEq

/-- What a line table answers. -/
inductive Answer where
  | position (p : Position)
  | text (t : Text)
  | count (n : Nat)
  deriving DecidableEq

/-- The answer to a question. -/
def answer (t : LineTable) : Query → Answer
  | .position offset => .position (t.position offset)
  | .lineAt offset => .text (t.lineAt offset)
  | .lineCount => .count t.lineCount
  | .source => .text t.source

end LineTable

end CodeFrame
