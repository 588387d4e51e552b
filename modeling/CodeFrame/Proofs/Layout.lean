import CodeFrame.Proofs.Following
import CodeFrame.Proofs.Frame
import CodeFrame.Proofs.Parts
import CodeFrame.Report

/-!
# The layouts of an excerpt

Both layouts of an excerpt share their frame (`Excerpt.framed`) and differ in the source and in the carets
(`Excerpt.source_of_same_line` and `Excerpt.carets_of_same_line`, `Excerpt.source_of_other_line` and
`Excerpt.carets_of_other_line`). The line they print is shortened and so its columns lie in its text, whatever the view
answered (`Excerpt.within_line`): a view that contradicts itself moves the mark, but cannot tear the carets from the
marked text. Only a number that is too long to be written ends an excerpt early (`excerpt_of_any_view`).
-/

namespace CodeFrame

open Text

namespace Excerpt

/-- The caret and the note below the start of a mark that goes on. -/
def continuation : Run := .styled .diagnostic (Mark.caret ++ ' ' :: Mark.continues)

/-- The caret row ends with its last run. -/
theorem suffix_framed_iff {name message : Text} {p : Position} {source : List Run} {b r r' : Run} :
    [r', lineEnd, lineEnd] <:+ framed name message p source [b, r] ↔ r' = r := by
  unfold framed
  rw [show [b, r] = [b] ++ [r] from rfl, ← List.append_assoc _ [b] [r], List.append_assoc _ [r]]
  constructor
  · rintro ⟨runs, h⟩
    exact (List.cons.inj (List.append_inj' h rfl).2).1
  · rintro rfl
    exact List.suffix_append _ _

/-- Carets alone are no note. -/
theorem continuation_ne_carets (n : Nat) : continuation ≠ .styled .diagnostic (Mark.carets n) := by
  intro h
  have htext : Mark.caret ++ ' ' :: Mark.continues = Mark.carets n := (Run.styled.inj h).2
  -- the space before the note is none of the carets
  have hmem : ' ' ∈ Mark.carets n := by
    rw [← htext]
    simp
  have := List.eq_of_mem_replicate hmem
  cases this

/-- The columns of the printed line lie in its text, whatever the view answered. -/
theorem within_line (l : Limits) (v : LineView) (name : Text) (s : Span) (message : Text) :
    (ofView l v name s message).line.Within :=
  MarkedLine.Within.shorten l (MarkedLine.within_clamped _ _ _)

/-- The printed mark is what is shown of the mark on the whole line. -/
theorem marked_line (l : Limits) (v : LineView) (name : Text) (s : Span) (message : Text) :
    (ofView l v name s message).line.marked = l.shownMark (wholeLine v s).marked :=
  MarkedLine.Within.marked_shorten l (MarkedLine.within_clamped _ _ _)

theorem source_of_same_line {e : Excerpt} (h : e.start.line = e.stop.line) :
    e.source = [.bare e.line.before, .styled .highlight e.line.marked, .bare e.line.after] := by
  have hg : e.goesOn = false := by simp [goesOn, h]
  simp [source, hg]

theorem carets_of_same_line {e : Excerpt} (hw : e.line.Within) (h : e.start.line = e.stop.line) :
    e.carets = [.bare e.line.before.blanked, .styled .diagnostic (Mark.carets e.line.marked.length)] := by
  have hg : e.goesOn = false := by simp [goesOn, h]
  have hwidth : e.line.width.toNat = e.line.marked.length := by
    rw [hw.width_eq, Int.toNat_natCast]
  simp [carets, hg, hwidth, Margin.under, MarkedLine.before]

theorem source_of_other_line {e : Excerpt} (h : e.start.line ≠ e.stop.line) :
    e.source = [.bare e.line.before, .styled .highlight (e.line.text.sliceFrom e.line.start)] := by
  have hg : e.goesOn = true := by simp [goesOn, h]
  simp [source, hg]

theorem carets_of_other_line {e : Excerpt} (h : e.start.line ≠ e.stop.line) :
    e.carets = [.bare (Text.spaces e.line.start.toNat), continuation] := by
  have hg : e.goesOn = true := by simp [goesOn, h]
  simp [carets, hg, continuation]

/-- Below what stands before a mark, there are tabs below tabs and spaces below the rest. -/
theorem getElem?_blanked_before {m : MarkedLine} (hm : m.Within) {j : Nat} (hj : j < m.before.length) :
    (Text.blanked m.before)[j]? = some (if m.text[j]? = some '\t' then '\t' else ' ') := by
  have htext : m.text[j]? = m.before[j]? := by
    rw [hm.text_eq, List.append_assoc, List.getElem?_append_left hj]
  unfold Text.blanked
  rw [List.getElem?_map, htext, List.getElem?_eq_getElem hj]
  simp

end Excerpt

open Excerpt

section Performed

variable {σ ε : Type} {find : Finder σ ε} {st st' : σ} {v : LineView} {name : Text} {s : Span}

/-- The excerpt of a span whose source was found is drawn, as far as its numbers can be written, after one lookup. -/
theorem perform_excerptScript (l : Limits) (message : Text) (hs : s.source = some name)
    (hf : find name st = (.ok v, st')) :
    perform find (excerptScript l (some s) message) st = (.drawn name (ofView l v name s message).drawing, st') := by
  unfold excerptScript
  rw [quoteScript_of_named hs, perform_quote_of_found hf]

/-- If its numbers can be written, the excerpt is written whole. -/
theorem perform_excerptScript_of_fits (l : Limits) (message : Text) (hs : s.source = some name)
    (hf : find name st = (.ok v, st')) (hp : (v.position s.start).Fits) :
    perform find (excerptScript l (some s) message) st =
      (⟨framed name message (v.position s.start) (ofView l v name s message).source
        (ofView l v name s message).carets, [name], none⟩, st') := by
  have hdrawing : (ofView l v name s message).drawing = _ := ofRows_of_fits _ _ _ _ hp
  rw [perform_excerptScript l message hs hf, hdrawing]
  rfl

/-- Otherwise, at most two of its rows are written. -/
theorem perform_excerptScript_of_not_fits (l : Limits) (message : Text) (hs : s.source = some name)
    (hf : find name st = (.ok v, st')) (hp : ¬ (v.position s.start).Fits) :
    perform find (excerptScript l (some s) message) st =
      (⟨if (v.position s.start).line = -(tooLong : Int) ∧ Fits ((v.position s.start).column + 1) then
          begun name message (v.position s.start)
        else [], [name], some (.fault .numeralTooLong)⟩, st') := by
  have hdrawing : (ofView l v name s message).drawing = _ := ofRows_of_not_fits _ _ _ _ hp
  rw [perform_excerptScript l message hs hf, hdrawing]
  rfl

section Outcome

variable (l : Limits) (message : Text) (hs : s.source = some name) (hf : (find name st).1 = .ok v)
include hs hf

/-! What becomes of it does not depend on the state of the finder. -/

theorem outcome_excerptScript :
    (perform find (excerptScript l (some s) message) st).1 = .drawn name (ofView l v name s message).drawing :=
  congrArg Prod.fst (perform_excerptScript l message hs (Prod.ext hf rfl))

theorem outcome_excerptScript_of_fits (hp : (v.position s.start).Fits) :
    (perform find (excerptScript l (some s) message) st).1 =
      ⟨framed name message (v.position s.start) (ofView l v name s message).source
        (ofView l v name s message).carets, [name], none⟩ :=
  congrArg Prod.fst (perform_excerptScript_of_fits l message hs (Prod.ext hf rfl) hp)

theorem outcome_excerptScript_of_not_fits (hp : ¬ (v.position s.start).Fits) :
    (perform find (excerptScript l (some s) message) st).1 =
      ⟨if (v.position s.start).line = -(tooLong : Int) ∧ Fits ((v.position s.start).column + 1) then
          begun name message (v.position s.start)
        else [], [name], some (.fault .numeralTooLong)⟩ :=
  congrArg Prod.fst (perform_excerptScript_of_not_fits l message hs (Prod.ext hf rfl) hp)

end Outcome

/-- **No view can break an excerpt**, but by a number that is too long. Whatever is answered for the source, the excerpt
is written whole exactly if the line of its start, the next line and the next column can be written; otherwise it ends
with that fault, before its first row, or for one line before its third row. Its columns lie in the printed line and are
in order; and below the marked text stand as many carets as it has characters, after as many blanks, tabs below tabs, as
stand before it. -/
theorem excerpt_of_any_view (l : Limits) (message : Text) (hs : s.source = some name)
    (hf : find name st = (.ok v, st')) :
    let m := (ofView l v name s message).line
    let p := v.position s.start
    m.Within ∧ m.width ≤ l.mark ∧
      (p.Fits ↔ p.line.natAbs < tooLong ∧ (p.line + 1).natAbs < tooLong ∧ (p.column + 1).natAbs < tooLong) ∧
      ∃ source carets,
        (p.Fits → perform find (excerptScript l (some s) message) st =
          (⟨framed name message p source carets, [name], none⟩, st')) ∧
        (¬ p.Fits → perform find (excerptScript l (some s) message) st =
          (⟨if p.line = -(tooLong : Int) ∧ Fits (p.column + 1) then begun name message p else [], [name],
            some (.fault .numeralTooLong)⟩, st')) ∧
        (p.line = (v.position s.stop).line →
          source = [.bare m.before, .styled .highlight m.marked, .bare m.after] ∧
          m.before ++ m.marked ++ m.after = m.text ∧
          ∃ under, carets = [.bare under, .styled .diagnostic (Mark.carets m.width.toNat)] ∧
            under.length = m.start ∧
            ∀ j < under.length, under[j]? = some (if m.text[j]? = some '\t' then '\t' else ' ')) ∧
        (p.line ≠ (v.position s.stop).line →
          source = [.bare m.before, .styled .highlight (m.text.sliceFrom m.start)] ∧
          carets = [.bare (Text.spaces m.start.toNat), continuation]) := by
  intro m p
  let e := ofView l v name s message
  have hw : m.Within := within_line l v name s message
  refine ⟨hw, MarkedLine.width_shorten_le l _, Position.fits_iff, e.source, e.carets, fun hp => ?_, fun hp => ?_,
    fun hline => ?_, fun hline => ?_⟩
  · exact perform_excerptScript_of_fits l message hs hf hp
  · exact perform_excerptScript_of_not_fits l message hs hf hp
  · refine ⟨source_of_same_line hline, hw.text_eq.symm, Text.blanked m.before, ?_, ?_, fun j hj => ?_⟩
    · rw [carets_of_same_line hw hline, hw.width_eq, Int.toNat_natCast]
    · rw [Text.length_blanked, hw.start_eq]
    · rw [Text.length_blanked] at hj
      exact getElem?_blanked_before hw hj
  · exact ⟨source_of_other_line hline, carets_of_other_line hline⟩

/-- A view with a negative line, and an end column far before the start column. -/
theorem excerpt_of_contrary_view :
    let v : LineView := ⟨fun _ => "\tab".toList, fun offset => ⟨-3, 6 - 4 * offset⟩⟩
    let find : Finder Nat Fault := fun _ asked => (.ok v, asked + 1)
    let s : Span := { source := some ['t'], start := 1, stop := 9 }
    s.source = some ['t'] ∧ find ['t'] 0 = (.ok v, 1) ∧ (v.position s.start).Fits ∧
      ∃ under, perform find (excerptScript .standard (some s) []) 0 =
          (⟨framed ['t'] [] ⟨-3, 2⟩ [.bare ['\t', 'a'], .styled .highlight [], .bare ['b']]
            [.bare under, .styled .diagnostic []], [['t']], none⟩, 1) ∧
        under[0]? = some '\t' ∧ under[1]? = some ' ' ∧ under[2]? = none := by
  intro v find s
  have hs : s.source = some ['t'] := rfl
  have hf : find ['t'] 0 = (.ok v, 1) := rfl
  have hp : (v.position s.start).Fits := ⟨by decide, by decide, by decide⟩
  obtain ⟨-, -, -, _, _, hrun, -, hsame, -⟩ := excerpt_of_any_view .standard [] hs hf
  obtain ⟨rfl, -, under, rfl, hlen, hunder⟩ := hsame rfl
  have htwo : under.length = 2 := Int.ofNat.inj hlen
  refine ⟨hs, hf, hp, under, hrun hp, hunder 0 (by omega), hunder 1 (by omega), ?_⟩
  rw [List.getElem?_eq_none_iff]
  omega

/-- A view with a column that can be counted from zero but not from one: of the excerpt, nothing is written. -/
theorem excerpt_of_column_too_long :
    let v : LineView := ⟨fun _ => ['x'], fun _ => ⟨0, tooLong - 1⟩⟩
    let find : Finder Unit Fault := fun _ asked => (.ok v, asked)
    let s : Span := { source := some ['t'], start := 2, stop := 3 }
    (perform find (excerptScript .standard (some s) []) ()).1 = ⟨[], [['t']], some (.fault .numeralTooLong)⟩ := by
  intro v find s
  have hcolumn : ¬ (v.position s.start).HeadingFits := fun h => not_fits_tooLong h.column
  rw [outcome_excerptScript .standard [] rfl rfl]
  exact congrArg (Outcome.drawn _) (ofRows_of_not_headingFits _ _ _ _ hcolumn)

end Performed

end CodeFrame
