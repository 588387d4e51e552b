import CodeFrame.Proofs.Rows

/-!
# Alignment of the rows of an excerpt

The margin of each row ends in a bar. The margin of the source row is the numeral of its line, and the other margins
leave as much room exactly if this number is not negative (`Margin.room_eq_length_iff`), so that then the three bars of
the frame stand below each other (`Excerpt.bars_iff`).

How far a text reaches on a screen depends on its tabs (`Text.cellAfter`). Below the text before a mark, tabs stand below
tabs and spaces below the rest, hence both reach equally far, if they start at the same cell
(`Text.foldl_nextCell_blanked`); and so the carets start at the cell at which the marked text starts, however the line
was shortened (`alignment_of_any_view`).
-/

namespace CodeFrame

namespace Text

/-! ## Bars -/

/-- The column of the first bar of a text. -/
def bar? (t : Text) : Option Nat := t.findIdx? (· = '|')

theorem bar?_append {s : Text} (h : '|' ∉ s) (t : Text) : bar? (s ++ '|' :: t) = some s.length := by
  have hs : s.findIdx? (· = '|') = none := by
    rw [List.findIdx?_eq_none_iff]
    intro c hc
    exact decide_eq_false fun hbar => h (hbar ▸ hc)
  unfold bar?
  rw [List.findIdx?_append, hs, List.findIdx?_cons]
  simp

/-! ## Cells -/

/-- The cell behind a character at a cell: a tab leads to the next multiple of `tab`, any other character to the next
cell. -/
def nextCell (tab cell : Nat) (c : Char) : Nat := if c = '\t' then (cell / tab + 1) * tab else cell + 1

/-- The cell behind a text at the beginning of a row. -/
def cellAfter (tab : Nat) (t : Text) : Nat := t.foldl (nextCell tab) 0

theorem cellAfter_append (tab : Nat) (s t : Text) :
    cellAfter tab (s ++ t) = t.foldl (nextCell tab) (cellAfter tab s) :=
  List.foldl_append

/-- Blanks reach as far as the text that they stand for. -/
theorem foldl_nextCell_blanked (tab cell : Nat) (t : Text) :
    (blanked t).foldl (nextCell tab) cell = t.foldl (nextCell tab) cell := by
  induction t generalizing cell with
  | nil => rfl
  | cons c t ih =>
    have hstep : nextCell tab cell (if c = '\t' then '\t' else ' ') = nextCell tab cell c := by
      unfold nextCell
      by_cases hc : c = '\t' <;> simp [hc]
    exact (congrArg (List.foldl (nextCell tab) · (blanked t)) hstep).trans (ih _)

/-- Without tabs, each character fills one cell. -/
theorem foldl_nextCell_of_notMem (tab cell : Nat) {t : Text} (h : '\t' ∉ t) :
    t.foldl (nextCell tab) cell = cell + t.length := by
  induction t generalizing cell with
  | nil => rfl
  | cons c t ih =>
    obtain ⟨hc, ht⟩ := not_or.1 fun hm => h (List.mem_cons.2 hm)
    have hstep : nextCell tab cell c = cell + 1 := if_neg (Ne.symm hc)
    rw [List.foldl_cons, hstep, ih _ ht, List.length_cons]
    omega

theorem cellAfter_of_notMem (tab : Nat) {t : Text} (h : '\t' ∉ t) : cellAfter tab t = t.length :=
  (foldl_nextCell_of_notMem tab 0 h).trans (Nat.zero_add _)

end Text

open Text

/-- The margin leaves as much room as the numeral takes, but for a negative number, which has its sign besides. -/
theorem Margin.room_eq_length_iff (n : Int) : room n = (decimal n).length ↔ 0 ≤ n := by
  cases n with
  | ofNat k => exact iff_of_true rfl (Int.natCast_nonneg k)
  | negSucc k =>
    have hdigits := List.length_pos_of_ne_nil (digits_ne_nil (k + 1))
    have hlength : (decimal (Int.negSucc k)).length = (digits (k + 1)).length + 1 := rfl
    rw [room_of_nonpos (Int.le_of_lt (Int.negSucc_lt_zero k)), hlength]
    omega

namespace Excerpt

/-! ## The bars of the frame -/

section Bars

variable (line : Int)

theorem bar?_unnumberedRow :
    bar? (paint Palette.plain.painter (unnumberedRow line)) = some (Margin.room line + 1) := by
  have hrow : paint Palette.plain.painter (unnumberedRow line) = (spaces (Margin.room line) ++ [' ']) ++ ['|'] := by
    rw [paint_plain]
    simp [unnumberedRow, Run.text, Mark.bareFrame]
  rw [hrow, bar?_append (by simp [notMem_spaces]), List.length_append, length_spaces]
  rfl

theorem bar?_numberedRow (source : List Run) :
    bar? (paint Palette.plain.painter (numberedRow line source)) = some ((decimal line).length + 1) := by
  have hrow : ∃ rest, paint Palette.plain.painter (numberedRow line source) = (decimal line ++ [' ']) ++ '|' :: rest := by
    rw [paint_plain]
    exact ⟨_, by simp [numberedRow, Run.text, Mark.frame]; rfl⟩
  obtain ⟨rest, hrow⟩ := hrow
  rw [hrow, bar?_append (by simp [notMem_decimal]), List.length_append]
  rfl

theorem bar?_indentedRow (carets : List Run) :
    bar? (paint Palette.plain.painter (indentedRow line carets)) = some (Margin.room line + 1) := by
  have hrow : ∃ rest, paint Palette.plain.painter (indentedRow line carets) =
      (spaces (Margin.room line) ++ [' ']) ++ '|' :: rest := by
    rw [paint_plain]
    exact ⟨_, by simp [indentedRow, Run.text, Mark.frame]; rfl⟩
  obtain ⟨rest, hrow⟩ := hrow
  rw [hrow, bar?_append (by simp [notMem_spaces]), List.length_append, length_spaces]
  rfl

/-- The three bars of the frame stand below each other exactly if the line is not negative. -/
theorem bars_iff (source carets : List Run) :
    (∃ column, bar? (paint Palette.plain.painter (unnumberedRow line)) = some column ∧
      bar? (paint Palette.plain.painter (numberedRow line source)) = some column ∧
      bar? (paint Palette.plain.painter (indentedRow line carets)) = some column) ↔ 0 ≤ line := by
  rw [bar?_unnumberedRow, bar?_numberedRow, bar?_indentedRow, ← Margin.room_eq_length_iff]
  constructor
  · rintro ⟨column, hempty, hsource, -⟩
    have := Option.some.inj hempty
    have := Option.some.inj hsource
    omega
  · intro hroom
    exact ⟨_, rfl, by rw [hroom], rfl⟩

end Bars

/-! ## The cells before the mark and before the carets -/

section Cells

variable {line : Int} {before : Text}

/-- If the line is not negative, then the source row reaches as far before its mark as the caret row before its carets. -/
theorem cellAfter_before (hline : 0 ≤ line) (tab : Nat) :
    cellAfter tab (paint Palette.plain.painter (numberedRow line [.bare before])) =
      cellAfter tab (paint Palette.plain.painter (indentedRow line [.bare (blanked before)])) := by
  have hframe : Mark.frame.ControlFree := by decide
  have hmark : paint Palette.plain.painter (numberedRow line [.bare before]) =
      (decimal line ++ Mark.frame) ++ before := by
    rw [paint_plain]
    simp [numberedRow, Run.text]
  have hcarets : paint Palette.plain.painter (indentedRow line [.bare (blanked before)]) =
      (spaces (Margin.room line) ++ Mark.frame) ++ blanked before := by
    rw [paint_plain]
    simp [indentedRow, Run.text]
  have hnumber : '\t' ∉ decimal line ++ Mark.frame :=
    ControlFree.notMem ((controlFree_decimal _).append hframe) (by decide)
  have hspaces : ControlFree (spaces (Margin.room line)) := controlFree_replicate (by decide) _
  have hroom : '\t' ∉ spaces (Margin.room line) ++ Mark.frame :=
    ControlFree.notMem (hspaces.append hframe) (by decide)
  rw [hmark, hcarets, cellAfter_append tab (_ ++ _), cellAfter_append tab (_ ++ _), cellAfter_of_notMem tab hnumber,
    cellAfter_of_notMem tab hroom, foldl_nextCell_blanked, List.length_append, List.length_append, length_spaces,
    (Margin.room_eq_length_iff _).2 hline]

end Cells

end Excerpt

section Found

open Excerpt

variable {σ ε : Type} {find : Finder σ ε} {st : σ} {v : LineView} {name : Text} {s : Span}

/-- **The rows of an excerpt are aligned.** Whatever is answered for the source, as long as the line holds no newline:
if its numbers can be written, then in the empty row, the source row and the caret row the bars of the frame stand in one
column exactly if the line of the span is not negative, as it is with every line table. If it is not, and the span ends on
its line, then the carets start at the cell at which the marked text starts in the row above, whatever the distance of the
tabs. If a number is too long, there is no source row. -/
theorem alignment_of_any_view (l : Limits) (message : Text) (hs : s.source = some name)
    (hf : (find name st).1 = .ok v) (hline : '\n' ∉ v.lineAt s.start) :
    let plain := paint Palette.plain.painter
    let o := (perform find (excerptScript l (some s) message) st).1
    let p := v.position s.start
    (¬ p.Fits → o = ⟨if p.line = -(tooLong : Int) ∧ Fits (p.column + 1) then begun name message p else [], [name],
      some (.fault .numeralTooLong)⟩) ∧
    (p.Fits → ∃ heading empty source carets : List Run,
      o = ⟨[heading, empty, source, carets, []].flatMap (· ++ [lineEnd]), [name], none⟩ ∧
      ('\n' ∉ plain empty ∧ '\n' ∉ plain source ∧ '\n' ∉ plain carets) ∧
      ((∃ column, bar? (plain empty) = some column ∧ bar? (plain source) = some column ∧
        bar? (plain carets) = some column) ↔ 0 ≤ p.line) ∧
      (0 ≤ p.line → p.line = (v.position s.stop).line → ∃ before mark after under,
        source = before ++ .styled .highlight mark :: after ∧
        carets = under ++ [.styled .diagnostic (Mark.carets mark.length)] ∧
        ∀ tab, cellAfter tab (plain before) = cellAfter tab (plain under))) ∧
    ∀ S, v = (LineTable.ofText S).view → 0 ≤ p.line ∧ (Fits (S.length + 1) → p.Fits) := by
  intro plain o p
  let e := ofView l v name s message
  have hw : e.line.Within := within_line l v name s message
  have hprinted : '\n' ∉ e.line.text := notMem_line (by decide) l hline
  have hsource := notMem_source hprinted
  have hcarets := notMem_carets (by decide) hprinted
  refine ⟨outcome_excerptScript_of_not_fits l message hs hf, fun hp => ?_, ?_⟩
  · refine ⟨headedRow name message p, unnumberedRow p.line, numberedRow p.line e.source, indentedRow p.line e.carets,
      ?_, ⟨?_, ?_, ?_⟩, bars_iff p.line _ _, fun hpos hsame => ?_⟩
    · have ho : o = _ := outcome_excerptScript_of_fits l message hs hf hp
      rw [ho, framed_eq_flatMap]
      rfl
    · exact notMem_paint_plain (notMem_unnumberedRow (by decide))
    · exact notMem_paint_plain (notMem_numberedRow (by decide) hsource)
    · exact notMem_paint_plain (notMem_indentedRow (by decide) hcarets)
    · refine ⟨numberedRow p.line [.bare e.line.before], e.line.marked, [.bare e.line.after],
        indentedRow p.line [.bare (blanked e.line.before)], ?_, ?_, cellAfter_before hpos⟩
      · rw [source_of_same_line hsame]
        rfl
      · rw [carets_of_same_line hw hsame]
        rfl
  · rintro S rfl
    exact ⟨Int.natCast_nonneg _, fun hfits => LineTable.position_fits hfits s.start⟩

/-- The mark stands behind a tab, on a line with two digits that is cut on its left. -/
theorem alignment_behind_cut_text :
    let plain := paint Palette.plain.painter
    let l : Limits := { mark := 9, context := 2, line := 3 }
    let v : LineView := ⟨fun _ => ['k', 'k', 'k', '\t', 'a', 'b', 'c'], fun offset => ⟨12, offset⟩⟩
    let find : Finder Nat Fault := fun _ asked => (.ok v, asked + 1)
    let s : Span := { source := some ['t'], start := 4, stop := 6 }
    s.source = some ['t'] ∧ (find ['t'] 0).1 = .ok v ∧ '\n' ∉ v.lineAt s.start ∧ (v.position s.start).Fits ∧
      0 ≤ (v.position s.start).line ∧ (v.position s.start).line = (v.position s.stop).line ∧
      ∃ heading empty source carets : List Run,
        (perform find (excerptScript l (some s) ['\n']) 0).1 =
            ⟨[heading, empty, source, carets, []].flatMap (· ++ [lineEnd]), [['t']], none⟩ ∧
        (∃ column, bar? (plain empty) = some column ∧ bar? (plain source) = some column ∧
          bar? (plain carets) = some column) ∧
        ∃ before mark after under,
          source = before ++ .styled .highlight mark :: after ∧
          carets = under ++ [.styled .diagnostic (Mark.carets mark.length)] ∧
          cellAfter 8 (plain before) = cellAfter 8 (plain under) := by
  intro plain l v find s
  have hs : s.source = some ['t'] := rfl
  have hf : (find ['t'] 0).1 = .ok v := rfl
  have hline : '\n' ∉ v.lineAt s.start := by decide
  have hp : (v.position s.start).Fits := ⟨by decide, by decide, by decide⟩
  have hpos : 0 ≤ (v.position s.start).line := by decide
  obtain ⟨-, haligned, -⟩ := alignment_of_any_view l ['\n'] hs hf hline
  obtain ⟨heading, empty, source, carets, hrun, -, hbars, hcells⟩ := haligned hp
  obtain ⟨before, mark, after, under, hsource, hcarets, htabs⟩ := hcells hpos rfl
  exact ⟨hs, hf, hline, hp, hpos, rfl, heading, empty, source, carets, hrun, hbars.2 hpos,
    before, mark, after, under, hsource, hcarets, htabs 8⟩

/-- The line is not negative, but its successor has too many digits: there are no rows, so there are no bars either. -/
theorem alignment_of_line_too_long :
    let plain := paint Palette.plain.painter
    let v : LineView := ⟨fun _ => ['x'], fun _ => ⟨tooLong - 1, 0⟩⟩
    let find : Finder Unit Fault := fun _ asked => (.ok v, asked)
    let s : Span := { source := some ['t'], start := 5, stop := 6 }
    let o := (perform find (excerptScript .standard (some s) []) ()).1
    0 ≤ (v.position s.start).line ∧ o = ⟨[], [['t']], some (.fault .numeralTooLong)⟩ ∧
      ¬ ∃ heading empty source carets : List Run,
        o.written = [heading, empty, source, carets, []].flatMap (· ++ [lineEnd]) ∧
        ∃ column, bar? (plain empty) = some column ∧ bar? (plain source) = some column ∧
          bar? (plain carets) = some column := by
  intro plain v find s o
  have hnext : ¬ (v.position s.start).HeadingFits := fun h => not_fits_tooLong h.line
  have hdrawing : (ofView .standard v ['t'] s []).drawing = _ := ofRows_of_not_headingFits _ _ _ _ hnext
  have ho : o = ⟨[], [['t']], some (.fault .numeralTooLong)⟩ :=
    (outcome_excerptScript .standard [] rfl rfl).trans (congrArg (Outcome.drawn _) hdrawing)
  refine ⟨?_, ho, ?_⟩
  · have hpos := tooLong_pos
    show (0 : Int) ≤ tooLong - 1
    omega
  · rintro ⟨heading, empty, source, carets, hrows, -⟩
    rw [ho] at hrows
    simp at hrows

end Found

end CodeFrame
