import CodeFrame.Fault
import CodeFrame.Mark

/-!
# Limits of an excerpt

`Limits` say how wide a mark and a line may be before they are shortened, and how many characters stay on each side of
a place where text was left out. An elided mark is never wider than a mark that may stay whole (`Limits.elided_le_mark`).
-/

namespace CodeFrame

/-- How wide the parts of an excerpt may be. -/
structure Limits where
  /-- The widest mark that is shown whole. -/
  mark : Nat
  /-- The characters kept on each side of left-out text. -/
  context : Nat
  /-- The longest line that is shown whole. -/
  line : Nat
  context_pos : 0 < context := by omega
  line_pos : 0 < line := by omega
  elided_le_mark : 2 * context + Mark.gap.length ≤ mark := by have := Mark.length_gap; omega
  deriving DecidableEq

namespace Limits

/-- The limits of an excerpt when nobody asks for others. -/
def standard : Limits where
  mark := 150
  context := 35
  line := 150

/-- The width of a mark whose middle is left out. -/
def elided (l : Limits) : Nat := 2 * l.context + Mark.gap.length

/-- The column at which a mark starts when text before it is left out. -/
def shiftedStart (l : Limits) : Nat := l.context + Mark.gap.length

/-- The given limits. The context is judged first, then the line, then the mark. -/
def ofInts (mark context line : Int) : Except Fault Limits :=
  if _ : context ≤ 0 then .error .contextNotPositive
  else if _ : line ≤ 0 then .error .lineNotPositive
  else if _ : mark < 2 * context + Mark.gap.length then
    .error (.markTooNarrow mark (2 * context + Mark.gap.length))
  else .ok { mark := mark.toNat, context := context.toNat, line := line.toNat }

/-- The given limits, and the standard ones where none is given. -/
def ofSettings (mark context line : Option Int) : Except Fault Limits :=
  ofInts (mark.getD standard.mark) (context.getD standard.context) (line.getD standard.line)

/-- Exactly the limits that leave room are accepted, and they are kept. -/
theorem ofInts_eq_ok_iff {mark context line : Int} {l : Limits} :
    ofInts mark context line = .ok l ↔
      (l.mark : Int) = mark ∧ (l.context : Int) = context ∧ (l.line : Int) = line := by
  obtain ⟨m, c, n, hc, hn, hm⟩ := l
  unfold ofInts
  split
  · simp; omega
  · split
    · simp; omega
    · split
      · simp; omega
      · simp only [Except.ok.injEq, mk.injEq]
        omega

end Limits

end CodeFrame
