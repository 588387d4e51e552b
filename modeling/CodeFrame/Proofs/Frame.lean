import CodeFrame.Excerpt
import CodeFrame.Proofs.Lines

/-!
# How much of a frame is drawn

A row of an excerpt is refused if one of its numerals is too long. The heading is written if the line and the column can
be, both counted from one (`Position.HeadingFits`); then there is room for the margin too. The source row also needs the
line counted from zero. If all three numbers can be written (`Position.Fits`), the excerpt is drawn whole
(`Excerpt.ofRows_of_fits`). Otherwise nothing of it is drawn (`Excerpt.ofRows_of_not_headingFits`), or the two rows above
the source row (`Excerpt.ofRows_of_headingFits`), the latter for one line only (`Position.headingFits_iff`).

The lines and columns of a text are written if its length is, counted from one (`LineTable.position_fits`).
-/

namespace CodeFrame

/-! ## Positions whose numbers can be written -/

/-- The line and the column, both counted from one, can be written. -/
structure Position.HeadingFits (p : Position) : Prop where
  line : Text.Fits (p.line + 1)
  column : Text.Fits (p.column + 1)

/-- Each of the numbers of an excerpt can be written. -/
structure Position.Fits (p : Position) : Prop where
  margin : Text.Fits p.line
  heading : p.HeadingFits

namespace Position

variable {p : Position}

theorem fits_iff :
    p.Fits ↔ p.line.natAbs < Text.tooLong ∧ (p.line + 1).natAbs < Text.tooLong ∧ (p.column + 1).natAbs < Text.tooLong := by
  rw [← Text.fits_iff, ← Text.fits_iff, ← Text.fits_iff]
  exact ⟨fun h => ⟨h.margin, h.heading.line, h.heading.column⟩, fun ⟨hmargin, hline, hcolumn⟩ => ⟨hmargin, hline, hcolumn⟩⟩

/-- One line can be counted from one, but not from zero: the negative of the least number that is too long. -/
theorem headingFits_iff (h : ¬ p.Fits) :
    p.HeadingFits ↔ p.line = -(Text.tooLong : Int) ∧ Text.Fits (p.column + 1) := by
  constructor
  · intro hp
    have hmargin : ¬ Text.Fits p.line := fun hline => h ⟨hline, hp⟩
    have hnext := Text.fits_iff.1 hp.line
    rw [Text.fits_iff] at hmargin
    exact ⟨by omega, hp.column⟩
  · rintro ⟨hline, hcolumn⟩
    refine ⟨Text.fits_iff.2 ?_, hcolumn⟩
    have hpos := Text.tooLong_pos
    omega

/-- The lines and columns up to a number fit if the next number can be written. -/
theorem fits_of_le {n : Nat} (hn : Text.Fits (n + 1)) (hline : 0 ≤ p.line ∧ p.line ≤ n)
    (hcolumn : 0 ≤ p.column ∧ p.column ≤ n) : p.Fits where
  margin := Text.fits_of_natAbs_le (by omega) hn
  heading := ⟨Text.fits_of_natAbs_le (by omega) hn, Text.fits_of_natAbs_le (by omega) hn⟩

end Position

theorem LineTable.position_fits {S : Text} (hS : Text.Fits (S.length + 1)) (offset : Int) :
    ((ofText S).position offset).Fits := by
  have hclamp := clamp_le S offset
  have hcount := List.count_le_length (a := '\n') (l := S.take ((ofText S).clamp offset))
  rw [List.length_take] at hcount
  rw [position_ofText]
  refine Position.fits_of_le hS ⟨Int.natCast_nonneg _, Int.ofNat_le.2 ?_⟩ ⟨Int.natCast_nonneg _, Int.ofNat_le.2 ?_⟩ <;>
    omega

open Text

namespace Excerpt

/-- The end of a row. -/
abbrev lineEnd : Run := .bare ['\n']

/-! ## Rows whose numbers can be written -/

/-- The heading, with its numerals. -/
def headed (name : Text) (p : Position) : List Run :=
  [.bare (Text.spaces (Margin.room p.line)), .styled .frame Mark.arrow,
    .bare (name ++ ':' :: Text.decimal (p.line + 1) ++ ':' :: Text.decimal (p.column + 1) ++ ": ".toList)]

/-- The rows above the source row. -/
def begun (name message : Text) (p : Position) : List Run :=
  headed name p ++ (if message = [] then [] else [.styled .message message]) ++ [lineEnd] ++
  [.bare (Text.spaces (Margin.room p.line)), .styled .frame Mark.bareFrame, lineEnd]

/-- The runs of an excerpt with a given source row and caret row, without their margins: the heading counts from one,
the margin from zero. -/
def framed (name message : Text) (p : Position) (source carets : List Run) : List Run :=
  begun name message p ++
  [.styled .frame (Text.decimal p.line ++ Mark.frame)] ++ source ++ [lineEnd] ++
  [.bare (Text.spaces (Margin.room p.line)), .styled .frame Mark.frame] ++ carets ++ [lineEnd, lineEnd]

/-- The heading, and the message if there is one. -/
def headedRow (name message : Text) (p : Position) : List Run :=
  headed name p ++ if message = [] then [] else [.styled .message message]

/-- The empty row, with room for the line number. -/
def unnumberedRow (line : Int) : List Run := [.bare (Text.spaces (Margin.room line)), .styled .frame Mark.bareFrame]

/-- The source behind the line number. -/
def numberedRow (line : Int) (source : List Run) : List Run :=
  .styled .frame (Text.decimal line ++ Mark.frame) :: source

/-- The carets behind the room for the line number. -/
def indentedRow (line : Int) (carets : List Run) : List Run :=
  [.bare (Text.spaces (Margin.room line)), .styled .frame Mark.frame] ++ carets

/-- The same runs, row by row. -/
def framedRows (name message : Text) (p : Position) (source carets : List Run) : List (List Run) :=
  [headedRow name message p, unnumberedRow p.line, numberedRow p.line source, indentedRow p.line carets, []]

theorem framed_eq_flatMap (name message : Text) (p : Position) (source carets : List Run) :
    framed name message p source carets = (framedRows name message p source carets).flatMap (· ++ [lineEnd]) := by
  simp [framed, begun, framedRows, headedRow, unnumberedRow, numberedRow, indentedRow]

theorem begun_prefix_framed (name message : Text) (p : Position) (source carets : List Run) :
    begun name message p <+: framed name message p source carets := by
  unfold framed
  simp only [List.append_assoc]
  exact List.prefix_append _ _

variable {p : Position}

/-- There is room for a line that can be written when it is counted from one. -/
theorem pad_of_fits {line : Int} (h : Text.Fits (line + 1)) : pad line = .ok (.bare (spaces (Margin.room line))) := by
  unfold pad
  rw [Margin.width_eq, if_pos (Text.fits_of_natAbs_le (by omega) h)]
  rfl

theorem heading_of_fits (name : Text) (h : p.HeadingFits) : heading name p = .ok (headed name p) := by
  unfold heading
  rw [pad_of_fits h.line, numeral_of_fits h.line, numeral_of_fits h.column]
  rfl

theorem heading_of_not_fits (name : Text) (h : ¬ p.HeadingFits) : heading name p = .error .numeralTooLong := by
  unfold heading
  by_cases hline : Fits (p.line + 1)
  · rw [pad_of_fits hline, numeral_of_fits hline, numeral_of_not_fits fun hcolumn => h ⟨hline, hcolumn⟩]
    rfl
  · -- the room may be refused already, for the same cause
    rw [numeral_of_not_fits hline]
    unfold pad
    rw [Margin.width_eq]
    split <;> rfl

section Rows

variable (name message : Text) (source carets : List Run)

theorem ofRows_of_fits (h : p.Fits) :
    Drawing.ofRows (rows name message p source carets) = ⟨framed name message p source carets, none⟩ := by
  have hrows : rows name message p source carets = (framedRows name message p source carets).map .ok := by
    unfold rows headingRow emptyRow sourceRow caretRow
    rw [heading_of_fits name h.heading, pad_of_fits h.heading.line, numeral_of_fits h.margin]
    rfl
  rw [hrows, Drawing.ofRows_map_ok, framed_eq_flatMap]

theorem ofRows_of_headingFits (h : p.HeadingFits) (hmargin : ¬ Fits p.line) :
    Drawing.ofRows (rows name message p source carets) = ⟨begun name message p, some .numeralTooLong⟩ := by
  unfold rows headingRow emptyRow sourceRow
  rw [heading_of_fits name h, pad_of_fits h.line, numeral_of_not_fits hmargin]
  simp [Drawing.ofRows, begun, pure, Except.pure, bind, Except.bind]

theorem ofRows_of_not_headingFits (h : ¬ p.HeadingFits) :
    Drawing.ofRows (rows name message p source carets) = ⟨[], some .numeralTooLong⟩ := by
  unfold rows headingRow
  rw [heading_of_not_fits name h]
  rfl

/-- An excerpt that is not drawn whole has a numeral that is too long, and of its rows at most two are drawn. -/
theorem ofRows_of_not_fits (h : ¬ p.Fits) :
    Drawing.ofRows (rows name message p source carets) =
      ⟨if p.line = -(tooLong : Int) ∧ Fits (p.column + 1) then begun name message p else [], some .numeralTooLong⟩ := by
  by_cases hp : p.HeadingFits
  · rw [ofRows_of_headingFits name message source carets hp fun hline => h ⟨hline, hp⟩,
      if_pos ((Position.headingFits_iff h).1 hp)]
  · rw [ofRows_of_not_headingFits name message source carets hp,
      if_neg fun hline => hp ((Position.headingFits_iff h).2 hline)]

/-- What is drawn of an excerpt is its beginning, or all of it. -/
theorem runs_ofRows_isPrefix :
    (Drawing.ofRows (rows name message p source carets)).runs <+: framed name message p source carets := by
  by_cases h : p.Fits
  · have hdrawing := ofRows_of_fits name message source carets h
    exact ⟨[], (List.append_nil _).trans (congrArg Drawing.runs hdrawing)⟩
  · rw [ofRows_of_not_fits name message source carets h]
    dsimp only
    split
    · exact begun_prefix_framed name message p source carets
    · exact List.nil_prefix

theorem fault_ofRows_eq_none_iff : (Drawing.ofRows (rows name message p source carets)).fault = none ↔ p.Fits := by
  by_cases h : p.Fits
  · rw [ofRows_of_fits name message source carets h]
    exact iff_of_true rfl h
  · rw [ofRows_of_not_fits name message source carets h]
    exact iff_of_false nofun h

end Rows

end Excerpt

end CodeFrame
