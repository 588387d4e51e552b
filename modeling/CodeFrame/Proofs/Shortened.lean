import CodeFrame.Proofs.Parts

/-!
# Shortened lines

What shortening makes of a line whose columns lie in its text, part by part (`MarkedLine.parts_of_shortened_line`). The
mark becomes `Limits.shownMark` in any case. What stands round it stays if the line fits then (`MarkedLine.Fits`), and
becomes `Limits.nearBefore` and `Limits.nearAfter` if it does not.

Shortening once more changes nothing (`MarkedLine.shorten_of_shortened`). This is not because the line would fit: with a
wide context it does not, and then it is cut a second time. But what the second cut takes off is the gap that the first
one has put in, which is put in again (`Limits.nearBefore_nearBefore`, `Limits.nearAfter_nearAfter`).

Of a line with any columns, be they negative, out of order or behind its text, the parts may overlap or be cut at bounds
that count from the end of the text. Still either rule keeps the line if it does not exceed the limit, and moves its
columns into its text if it does; this is a property that two rules in a row have if each of them has it
(`MarkedLine.Settles.comp`), and so shortening has it (`MarkedLine.shorten_of_any_columns`).
-/

namespace CodeFrame

namespace Limits

variable (l : Limits)

/-! ## Showing what is shown -/

/-- Behind a gap, as many characters as the context has stay. -/
theorem nearBefore_gap_append {t : Text} (h : t.length = l.context) :
    l.nearBefore (Mark.gap ++ t) = Mark.gap ++ t := by
  have hlen : (Mark.gap ++ t).length = Mark.gap.length + l.context := by rw [List.length_append, h]
  unfold nearBefore
  rw [if_neg (by simp [hlen]), hlen, Nat.add_sub_cancel, List.drop_left]

/-- Before a cut, as many characters as the context has stay. -/
theorem nearAfter_append_cut {t : Text} (h : t.length = l.context) :
    l.nearAfter (t ++ Mark.cut) = t ++ Mark.cut := by
  have hlen : (t ++ Mark.cut).length = l.context + Mark.cut.length := by rw [List.length_append, h]
  unfold nearAfter
  rw [if_neg (by simp [hlen]), ← h, List.take_left]

@[simp] theorem nearBefore_nearBefore (t : Text) : l.nearBefore (l.nearBefore t) = l.nearBefore t := by
  by_cases h : t.length ≤ l.context
  · have hself : l.nearBefore t = t := if_pos h
    rw [hself, hself]
  · have hcut : l.nearBefore t = Mark.gap ++ t.drop (t.length - l.context) := if_neg h
    rw [hcut]
    apply nearBefore_gap_append
    rw [List.length_drop]
    omega

@[simp] theorem nearAfter_nearAfter (t : Text) : l.nearAfter (l.nearAfter t) = l.nearAfter t := by
  by_cases h : t.length ≤ l.context
  · have hself : l.nearAfter t = t := if_pos h
    rw [hself, hself]
  · have hcut : l.nearAfter t = t.take l.context ++ Mark.cut := if_neg h
    rw [hcut]
    apply nearAfter_append_cut
    rw [List.length_take]
    omega

end Limits

namespace MarkedLine

/-! ## The parts of a shortened line -/

/-- Whether a line is short enough once its mark is. -/
def Fits (l : Limits) (m : MarkedLine) : Prop :=
  m.before.length + (l.shownMark m.marked).length + m.after.length ≤ l.line

instance (l : Limits) (m : MarkedLine) : Decidable (m.Fits l) := inferInstanceAs (Decidable (_ ≤ _))

/-- The first rule leaves a shortened line as it is: its mark is not too wide any more. -/
theorem elideMark_shorten (l : Limits) (m : MarkedLine) : (m.shorten l).elideMark l = m.shorten l := by
  apply elideMark_eq_self
  exact width_shorten_le l m

section Shorten

variable (l : Limits) {m : MarkedLine} (hm : m.Within)
include hm

theorem Within.elideMark_eq : m.elideMark l = ofParts m.before (l.shownMark m.marked) m.after := by
  calc m.elideMark l = (ofParts m.before m.marked m.after).elideMark l := congrArg (elideMark l) hm.eq_ofParts
    _ = ofParts m.before (l.shownMark m.marked) m.after := elideMark_ofParts l _ _ _

theorem Within.shorten_of_fits (h : m.Fits l) : m.shorten l = ofParts m.before (l.shownMark m.marked) m.after := by
  unfold MarkedLine.shorten
  rw [hm.elideMark_eq, window_ofParts]
  exact if_pos h

theorem Within.shorten_of_not_fits (h : ¬ m.Fits l) :
    m.shorten l = ofParts (l.nearBefore m.before) (l.shownMark m.marked) (l.nearAfter m.after) := by
  unfold MarkedLine.shorten
  rw [hm.elideMark_eq, window_ofParts]
  exact if_neg h

/-- The start of the mark moves only if text before it is left out. -/
theorem Within.start_shorten :
    (m.shorten l).start =
      if ¬ m.Fits l ∧ l.context < m.before.length then (l.shiftedStart : Int) else m.before.length := by
  by_cases hfit : m.Fits l
  · rw [hm.shorten_of_fits l hfit, start_ofParts, if_neg (by simp [hfit])]
  · rw [hm.shorten_of_not_fits l hfit, start_ofParts, l.length_nearBefore]
    by_cases hb : m.before.length ≤ l.context
    · rw [if_pos hb, if_neg (by omega)]
    · rw [if_neg hb, if_pos ⟨hfit, by omega⟩]

/-- The width of the mark changes only if its middle is left out. -/
theorem Within.width_shorten :
    (m.shorten l).width = if m.marked.length ≤ l.mark then (m.marked.length : Int) else l.elided := by
  rw [(hm.shorten l).width_eq, hm.marked_shorten, l.length_shownMark]
  split <;> rfl

/-- The second rule leaves a shortened line as it is: if the line is cut again, then where it was cut before. -/
theorem Within.window_shorten : (m.shorten l).window l = m.shorten l := by
  by_cases hfit : m.Fits l
  · rw [hm.shorten_of_fits l hfit, window_ofParts]
    exact if_pos hfit
  · -- whether the rest is still too long does not matter: what it would be cut to is what it is
    rw [hm.shorten_of_not_fits l hfit, window_ofParts, l.nearBefore_nearBefore, l.nearAfter_nearAfter]
    exact ite_self _

end Shorten

/-- **The parts of a shortened line.** The mark is shown whole or, if it is too wide, as its two ends with a gap between
them. What stands before and after it stays if the line fits then; otherwise the context on each side stays, behind a
gap and before a cut where there was more. So the mark starts where it started, or behind a gap and the context; and it
is as wide as it was, or as wide as a mark whose middle is left out. -/
theorem parts_of_shortened_line (l : Limits) {m : MarkedLine} (hm : m.Within) :
    let c := l.context
    let r := m.shorten l
    let mark :=
      if m.marked.length ≤ l.mark then m.marked
      else m.marked.take c ++ Mark.gap ++ m.marked.drop (m.marked.length - c)
    let length := m.before.length + mark.length + m.after.length
    r.marked = mark ∧
      (length ≤ l.line → r.before = m.before ∧ r.after = m.after) ∧
      (l.line < length →
        (r.before = if m.before.length ≤ c then m.before else Mark.gap ++ m.before.drop (m.before.length - c)) ∧
        (r.after = if m.after.length ≤ c then m.after else m.after.take c ++ Mark.cut)) ∧
      (r.start = if l.line < length ∧ c < m.before.length then (l.shiftedStart : Int) else m.before.length) ∧
      (r.width = if m.marked.length ≤ l.mark then (m.marked.length : Int) else l.elided) ∧
      0 ≤ r.start ∧ r.start ≤ r.stop ∧ r.stop ≤ r.text.length := by
  intro c r mark length
  refine ⟨hm.marked_shorten l, fun hfit => ?_, fun hlong => ?_, ?_, hm.width_shorten l, hm.shorten l⟩
  · have hr : r = ofParts m.before mark m.after := hm.shorten_of_fits l hfit
    rw [hr, before_ofParts, after_ofParts]
    exact ⟨rfl, rfl⟩
  · have hr : r = ofParts (l.nearBefore m.before) mark (l.nearAfter m.after) :=
      hm.shorten_of_not_fits l (Nat.not_le.2 hlong)
    rw [hr, before_ofParts, after_ofParts]
    exact ⟨rfl, rfl⟩
  · have hstart := hm.start_shorten l
    unfold Fits at hstart
    simp only [Nat.not_le] at hstart
    exact hstart

/-- A mark that is one character too wide, on a line that is one character too long even without the middle of it, with
more than the context before the mark and just the context after it. -/
theorem parts_of_line_cut_before_mark :
    let l : Limits := { mark := 13, context := 4, line := 21 }
    let m : MarkedLine := ⟨"k\t\t\t\tabcdefghijklmnzzzz".toList, 5, 19⟩
    m.Within ∧
      (m.shorten l).before = " ... \t\t\t\t".toList ∧ (m.shorten l).marked = "abcd ... klmn".toList ∧
      (m.shorten l).after = "zzzz".toList ∧ (m.shorten l).start = 9 ∧ (m.shorten l).width = 13 := by
  intro l m
  have hm : m.Within := ⟨by decide, by decide, by decide⟩
  obtain ⟨hmark, -, hcut, hstart, hwidth, -⟩ := parts_of_shortened_line l hm
  obtain ⟨hbefore, hafter⟩ := hcut (by decide)
  exact ⟨hm, hbefore, hmark, hafter, hstart, hwidth⟩

/-- **A shortened line stays as it is** under both rules, and so under shortening. -/
theorem shorten_of_shortened (l : Limits) {m : MarkedLine} (hm : m.Within) :
    (m.shorten l).elideMark l = m.shorten l ∧ (m.shorten l).window l = m.shorten l ∧
      (m.shorten l).shorten l = m.shorten l := by
  refine ⟨elideMark_shorten l m, hm.window_shorten l, ?_⟩
  calc (m.shorten l).shorten l = ((m.shorten l).elideMark l).window l := rfl
    _ = (m.shorten l).window l := by rw [elideMark_shorten]
    _ = m.shorten l := hm.window_shorten l

/-- At the standard limits, a wide mark in the middle of a long line: the shortened line is longer than a line that is
shown whole, and is cut on both sides once more. -/
theorem shorten_of_line_still_too_long :
    let l : Limits := .standard
    let m : MarkedLine := ⟨List.replicate 351 'x', 100, 251⟩
    m.Within ∧ l.line < (m.shorten l).text.length ∧ (m.shorten l).cutsHead l ∧ (m.shorten l).cutsTail l ∧
      (m.shorten l).elideMark l = m.shorten l ∧ (m.shorten l).window l = m.shorten l ∧
      (m.shorten l).shorten l = m.shorten l := by
  intro l m
  have hm : m.Within := ⟨by decide +kernel, by decide +kernel, by decide +kernel⟩
  exact ⟨hm, by decide +kernel, by decide +kernel, by decide +kernel, shorten_of_shortened l hm⟩

/-! ## Columns anywhere -/

/-- The rule keeps every line that fits, and moves the columns of any other one into its text. -/
structure Settles (fits : MarkedLine → Prop) (rule : MarkedLine → MarkedLine) : Prop where
  keeps : ∀ m, fits m → rule m = m
  settles : ∀ m, ¬ fits m → (rule m).Within

section Rules

variable {fits fits' : MarkedLine → Prop} {rule rule' : MarkedLine → MarkedLine} (h : Settles fits rule)
include h

theorem Settles.within {m : MarkedLine} (hm : m.Within) : (rule m).Within := by
  by_cases hfit : fits m
  · rw [h.keeps m hfit]
    exact hm
  · exact h.settles m hfit

/-- Two rules in a row keep the lines that fit for both of them. -/
theorem Settles.comp (h' : Settles fits' rule') : Settles (fun m => fits m ∧ fits' m) (fun m => rule' (rule m)) where
  keeps := by
    intro m ⟨hfit, hfit'⟩
    rw [h.keeps m hfit, h'.keeps m hfit']
  settles := by
    intro m hfits
    by_cases hfit : fits m
    · -- the first rule hands the line on with its columns as they are, and it is up to the second one
      rw [h.keeps m hfit]
      apply h'.settles
      intro hfit'
      exact hfits ⟨hfit, hfit'⟩
    · exact h'.within (h.settles m hfit)

end Rules

/-- Whatever a rule makes of the lines that do not fit, clamping it is enough. -/
theorem settles_of_clamped {fits : MarkedLine → Prop} [DecidablePred fits] (text : MarkedLine → Text)
    (start stop : MarkedLine → Int) :
    Settles fits fun m => if fits m then m else clamped (text m) (start m) (stop m) where
  keeps := by
    intro m hfit
    exact if_pos hfit
  settles := by
    intro m hfit
    rw [if_neg hfit]
    exact within_clamped _ _ _

section AnyColumns

variable (l : Limits)

theorem settles_elideMark : Settles (fun m => m.width ≤ l.mark) (elideMark l) := settles_of_clamped _ _ _

theorem settles_window : Settles (fun m => m.text.length ≤ l.line) (window l) := settles_of_clamped _ _ _

theorem settles_shorten : Settles (fun m => m.width ≤ l.mark ∧ m.text.length ≤ l.line) (shorten l) :=
  (settles_elideMark l).comp (settles_window l)

end AnyColumns

/-- **Shortening whatever the columns.** A line is kept with its columns by the first rule if its mark is not too wide, by
the second one if it is not too long, and by shortening if it is neither. In every other case the columns of the result
lie in its text, the end not before the start. And no mark is too wide after shortening. -/
theorem shorten_of_any_columns (l : Limits) (m : MarkedLine) :
    (m.width ≤ l.mark → m.elideMark l = m) ∧
      (l.mark < m.width → (m.elideMark l).Within) ∧
      (m.text.length ≤ l.line → m.window l = m) ∧
      (l.line < m.text.length → (m.window l).Within) ∧
      (m.width ≤ l.mark → m.text.length ≤ l.line → m.shorten l = m) ∧
      (l.mark < m.width ∨ l.line < m.text.length → (m.shorten l).Within) ∧
      (m.shorten l).width ≤ l.mark := by
  refine ⟨elideMark_eq_self, ?_, window_eq_self, ?_, ?_, ?_, width_shorten_le l m⟩
  · intro hwide
    exact (settles_elideMark l).settles m (by omega)
  · intro hlong
    exact (settles_window l).settles m (by omega)
  · intro hmark hline
    exact (settles_shorten l).keeps m ⟨hmark, hline⟩
  · intro hexceeds
    exact (settles_shorten l).settles m (by omega)

/-- Two marks that start before a text which is too long. With the first one, which is narrow, the window ends at a bound
that counts from the end of the text. With the second one, which is too wide, so does what is kept before the gap. -/
theorem shorten_of_mark_before_text :
    let l : Limits := { mark := 15, context := 5, line := 7 }
    let m : MarkedLine := ⟨"abcdefgh".toList, -8, -7⟩
    let m' : MarkedLine := ⟨"abcdefgh".toList, -8, 20⟩
    m.windowText l = m.text.slice 0 (-2) ∧ m.shorten l = ⟨"abcdef ...".toList, 0, 0⟩ ∧ (m.shorten l).Within ∧
      m'.elideMark l = ⟨m'.text.sliceTo (-3) ++ " ... ".toList, 0, 7⟩ ∧ (m'.elideMark l).Within ∧
      (m'.shorten l).Within ∧ (m'.shorten l).width ≤ l.mark := by
  intro l m m'
  obtain ⟨-, -, -, -, -, hm, -⟩ := shorten_of_any_columns l m
  obtain ⟨-, helide, -, -, -, hm', hwidth⟩ := shorten_of_any_columns l m'
  exact ⟨by decide, by decide, hm (by decide), by decide, helide (by decide), hm' (by decide), hwidth⟩

end MarkedLine

end CodeFrame
