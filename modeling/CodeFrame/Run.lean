import CodeFrame.Fault

/-!
# Runs of text and how they are painted

What is written is a list of `Run`s: bare text, or text that plays a `Role`. A `Painter` turns text in a role into what
the reader sees; bare text is never touched. Painting goes run by run (`paint_append`).

A `Drawing` is made of runs, and a fault may end it early. Rows are drawn one after another (`Drawing.ofRows`), so the rows
before one that is refused stay.
-/

namespace CodeFrame

/-! ## Roles -/

/-- What a run of text is in an excerpt. -/
inductive Role where
  /-- The frame and the arrow. -/
  | frame
  /-- What is said about a place, and the comment of a diagnostic. -/
  | message
  /-- The name of an error. -/
  | error
  /-- The name of a warning. -/
  | warning
  /-- Carets and the note under a range that goes on. -/
  | diagnostic
  /-- The marked part of the source. -/
  | highlight
  deriving DecidableEq

namespace Role

/-- The roles, in the order of their declaration. -/
def all : List Role := [.frame, .message, .error, .warning, .diagnostic, .highlight]

/-- The name of a role. -/
def name : Role → Text
  | .frame => "frame".toList
  | .message => "message".toList
  | .error => "error".toList
  | .warning => "warning".toList
  | .diagnostic => "diagnostic".toList
  | .highlight => "highlight".toList

/-- The role of a name. -/
def ofName (t : Text) : Except Fault Role :=
  match all.find? (·.name = t) with
  | some role => .ok role
  | none => .error (.unknownRole t)

@[simp] theorem ofName_name (r : Role) : ofName r.name = .ok r := by
  cases r <;> rfl

end Role

/-! ## Runs -/

/-- A piece of what is written: bare text, or text in a role. -/
inductive Run where
  | bare (text : Text)
  | styled (role : Role) (text : Text)
  deriving DecidableEq

/-- How text in a role is written. -/
abbrev Painter := Role → Text → Text

/-- What a painter makes of a run. -/
def Run.paint (p : Painter) : Run → Text
  | .bare t => t
  | .styled role t => p role t

/-- What a painter makes of some runs. -/
def paint (p : Painter) (runs : List Run) : Text := runs.flatMap (Run.paint p)

@[simp] theorem paint_nil (p : Painter) : paint p [] = [] := rfl

@[simp] theorem paint_cons (p : Painter) (r : Run) (rs : List Run) : paint p (r :: rs) = r.paint p ++ paint p rs :=
  List.flatMap_cons

@[simp] theorem paint_append (p : Painter) (rs ss : List Run) : paint p (rs ++ ss) = paint p rs ++ paint p ss :=
  List.flatMap_append

/-! ## Drawings -/

/-- What was drawn: the runs, and the fault that ended the drawing before it was complete. -/
structure Drawing where
  runs : List Run
  fault : Option Fault
  deriving DecidableEq

namespace Drawing

/-- Runs that are drawn at once, or not at all. -/
def ofRuns : Except Fault (List Run) → Drawing
  | .ok runs => ⟨runs, none⟩
  | .error f => ⟨[], some f⟩

/-- Rows, each ended by a newline, up to the first one that is refused. -/
def ofRows : List (Except Fault (List Run)) → Drawing
  | [] => ⟨[], none⟩
  | .ok row :: rest => ⟨row ++ [.bare ['\n']] ++ (ofRows rest).runs, (ofRows rest).fault⟩
  | .error f :: _ => ⟨[], some f⟩

/-- If no row is refused, all of them are drawn. -/
theorem ofRows_map_ok : ∀ rows : List (List Run), ofRows (rows.map .ok) = ⟨rows.flatMap (· ++ [.bare ['\n']]), none⟩
  | [] => rfl
  | row :: rows => by
    rw [List.map_cons, ofRows, ofRows_map_ok rows, List.flatMap_cons]

end Drawing

end CodeFrame
