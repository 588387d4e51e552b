import CodeFrame.Text

/-!
# The fixed marks of an excerpt

What an excerpt writes besides the source and the caller's words: the frame, the arrow, the caret, the note under a
range that goes on, and the two marks that stand for left-out text.
-/

namespace CodeFrame.Mark

/-- Stands for text left out before or inside what is shown. -/
def gap : Text := " ... ".toList

/-- Stands for text left out after what is shown. -/
def cut : Text := " ...".toList

/-- Underlines `n` characters. -/
def carets (n : Nat) : Text := List.replicate n '^'

/-- Underlines one character. -/
def caret : Text := carets 1

/-- The frame beside an empty row, without a space after it. -/
def bareFrame : Text := " |".toList

/-- The frame beside a row that holds something. -/
def frame : Text := " | ".toList

/-- Leads to the name of the source. -/
def arrow : Text := "--> ".toList

/-- Said under a range that goes on after its first line. -/
def continues : Text := "(Relevant source part starts here and spans across multiple lines).".toList

@[simp] theorem length_gap : gap.length = 5 := rfl

@[simp] theorem length_cut : cut.length = 4 := rfl

@[simp] theorem length_carets (n : Nat) : (carets n).length = n := List.length_replicate

end CodeFrame.Mark
