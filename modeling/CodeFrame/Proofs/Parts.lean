import CodeFrame.MarkedLine.Shorten

/-!
# Marked lines in parts

A marked line whose columns lie in its text and in order (`MarkedLine.Within`) is what stands before the mark, the mark,
and what stands after it (`MarkedLine.ofParts`, `MarkedLine.Within.eq_ofParts`). In parts, shortening needs no columns:
the mark becomes `Limits.shownMark`, and the rest, if the line is still too long, `Limits.nearBefore` and
`Limits.nearAfter` (`MarkedLine.elideMark_ofParts`, `MarkedLine.window_ofParts`).
-/

namespace CodeFrame

/-! ## What is shown of a text -/

namespace Limits

variable (l : Limits)

/-- What is shown of a mark: its middle is left out if it is too wide. -/
def shownMark (t : Text) : Text :=
  if t.length ≤ l.mark then t else t.take l.context ++ Mark.gap ++ t.drop (t.length - l.context)

/-- What is shown before a mark on a line that is too long. -/
def nearBefore (t : Text) : Text :=
  if t.length ≤ l.context then t else Mark.gap ++ t.drop (t.length - l.context)

/-- What is shown after a mark on a line that is too long. -/
def nearAfter (t : Text) : Text := if t.length ≤ l.context then t else t.take l.context ++ Mark.cut

theorem shownMark_eq_self {t : Text} (h : t.length ≤ l.mark) : l.shownMark t = t := if_pos h

theorem shownMark_of_lt {t : Text} (h : l.mark < t.length) :
    l.shownMark t = t.take l.context ++ Mark.gap ++ t.drop (t.length - l.context) :=
  if_neg (by omega)

/-- A mark is shown whole, or in exactly the width of one whose middle is left out. -/
theorem length_shownMark (t : Text) :
    (l.shownMark t).length = if t.length ≤ l.mark then t.length else l.elided := by
  have hroom := l.elided_le_mark
  unfold shownMark elided
  split
  · rfl
  · simp only [List.length_append, List.length_take, List.length_drop]
    omega

theorem length_shownMark_le (t : Text) : (l.shownMark t).length ≤ l.mark := by
  have hroom := l.elided_le_mark
  rw [length_shownMark]
  unfold elided
  split <;> omega

/-- The gap stands before the end of a text that is cut. -/
theorem nearBefore_eq (t : Text) :
    l.nearBefore t = (if l.context < t.length then Mark.gap else []) ++ t.drop (t.length - l.context) := by
  unfold nearBefore
  by_cases h : t.length ≤ l.context
  · have hzero : t.length - l.context = 0 := by omega
    rw [if_pos h, if_neg (by omega), hzero, List.drop_zero, List.nil_append]
  · rw [if_neg h, if_pos (by omega)]

/-- The cut stands after the beginning of a text that is cut. -/
theorem nearAfter_eq (t : Text) :
    l.nearAfter t = t.take l.context ++ if l.context < t.length then Mark.cut else [] := by
  unfold nearAfter
  by_cases h : t.length ≤ l.context
  · rw [if_pos h, if_neg (by omega), List.take_of_length_le h, List.append_nil]
  · rw [if_neg h, if_pos (by omega)]

theorem length_nearBefore (t : Text) :
    (l.nearBefore t).length = if t.length ≤ l.context then t.length else l.shiftedStart := by
  unfold nearBefore shiftedStart
  split
  · rfl
  · rw [List.length_append, List.length_drop]
    omega

theorem length_nearAfter (t : Text) :
    (l.nearAfter t).length = if t.length ≤ l.context then t.length else l.context + Mark.cut.length := by
  unfold nearAfter
  split
  · rfl
  · rw [List.length_append, List.length_take]
    omega

theorem nearAfter_nil : l.nearAfter [] = [] := if_pos (Nat.zero_le _)

end Limits

namespace MarkedLine

/-! ## Columns that lie in the text -/

/-- Both columns lie in the text, the end not before the start. -/
def Within (m : MarkedLine) : Prop := 0 ≤ m.start ∧ m.start ≤ m.stop ∧ m.stop ≤ m.text.length

/-- The line made of what stands before its mark, the mark, and what stands after it. -/
def ofParts (before mark after : Text) : MarkedLine :=
  ⟨before ++ mark ++ after, before.length, (before.length + mark.length : Nat)⟩

section Parts

variable (b h a : Text)

@[simp] theorem text_ofParts : (ofParts b h a).text = b ++ h ++ a := rfl

@[simp] theorem start_ofParts : (ofParts b h a).start = b.length := rfl

@[simp] theorem stop_ofParts : (ofParts b h a).stop = (b.length + h.length : Nat) := rfl

@[simp] theorem width_ofParts : (ofParts b h a).width = h.length := by
  unfold width
  rw [start_ofParts, stop_ofParts]
  omega

@[simp] theorem before_ofParts : (ofParts b h a).before = b := by
  unfold before
  rw [start_ofParts, Text.sliceTo_natCast, text_ofParts, List.append_assoc, List.take_left]

@[simp] theorem marked_ofParts : (ofParts b h a).marked = h := by
  unfold marked
  rw [start_ofParts, stop_ofParts, Text.slice_natCast, text_ofParts, ← List.length_append, List.take_left,
    List.drop_left]

@[simp] theorem after_ofParts : (ofParts b h a).after = a := by
  unfold after
  rw [stop_ofParts, Text.sliceFrom_natCast, text_ofParts, ← List.length_append, List.drop_left]

theorem within_ofParts : (ofParts b h a).Within := by
  refine ⟨Int.natCast_nonneg _, ?_, ?_⟩
  · rw [start_ofParts, stop_ofParts]
    omega
  · rw [stop_ofParts, text_ofParts, List.length_append, List.length_append]
    omega

/-- Clamping keeps the parts of a line. -/
theorem clamped_ofParts {start stop : Int} (hs : start = b.length) (ht : stop = start + h.length) :
    clamped (b ++ h ++ a) start stop = ofParts b h a := by
  unfold clamped ofParts
  simp only [List.length_append, mk.injEq, true_and]
  omega

end Parts

theorem within_clamped (t : Text) (start stop : Int) : (clamped t start stop).Within := clamped_bounds t start stop

/-- Clamping columns that are in order marks what stands between them. -/
theorem marked_clamped (t : Text) {start stop : Nat} (h : start ≤ stop) :
    (clamped t start stop).marked = (t.take stop).drop start := by
  have hstart : (clamped t start stop).start = (min start t.length : Nat) := by
    simp only [clamped]
    omega
  have hstop : (clamped t start stop).stop = (min stop t.length : Nat) := by
    simp only [clamped]
    omega
  unfold marked
  rw [hstart, hstop, text_clamped, Text.slice_natCast, ← List.take_eq_take_min]
  rcases Nat.le_total start t.length with hle | hle
  · rw [Nat.min_eq_left hle]
  · -- both sides start behind the text
    rw [Nat.min_eq_right hle, List.drop_eq_nil_of_le (List.length_take_le' _ _),
      List.drop_eq_nil_of_le (Nat.le_trans (List.length_take_le' _ _) hle)]

/-- A mark that reaches to the end of the text is the rest of it. -/
theorem marked_clamped_length (t : Text) (start : Nat) :
    (clamped t start t.length).marked = t.drop (min start t.length) := by
  have hclamp : clamped t start t.length = clamped t (min start t.length : Nat) t.length := by
    simp only [clamped, mk.injEq, true_and]
    omega
  rw [hclamp, marked_clamped t (Nat.min_le_right _ _), List.take_length]

/-- Nothing stands after a mark that reaches to the end of the text. -/
theorem after_clamped (t : Text) (start : Int) : (clamped t start t.length).after = [] := by
  have hstop : (clamped t start t.length).stop = t.length := by
    simp only [clamped]
    omega
  unfold after
  rw [hstop, text_clamped, Text.sliceFrom_natCast, List.drop_length]

/-- A line whose columns lie in its text is put together from its parts. -/
theorem Within.eq_ofParts {m : MarkedLine} (hm : m.Within) : m = ofParts m.before m.marked m.after := by
  obtain ⟨t, start, stop⟩ := m
  obtain ⟨h0, hij, hj⟩ := hm
  dsimp only at h0 hij hj
  obtain ⟨i, rfl⟩ := Int.eq_ofNat_of_zero_le h0
  obtain ⟨j, rfl⟩ := Int.eq_ofNat_of_zero_le (Int.le_trans h0 hij)
  have hcut : t.take i ++ (t.take j).drop i = t.take j := by
    calc t.take i ++ (t.take j).drop i = (t.take j).take i ++ (t.take j).drop i := by
          rw [List.take_take, Nat.min_eq_left (by omega)]
      _ = t.take j := List.take_append_drop i _
  simp only [before, marked, after, ofParts, Text.sliceTo_natCast, Text.slice_natCast, Text.sliceFrom_natCast, hcut,
    List.take_append_drop, List.length_take, List.length_drop, mk.injEq, true_and]
  omega

section Within

variable {m : MarkedLine} (hm : m.Within)
include hm

theorem Within.text_eq : m.text = m.before ++ m.marked ++ m.after := congrArg MarkedLine.text hm.eq_ofParts

theorem Within.start_eq : m.start = m.before.length := congrArg MarkedLine.start hm.eq_ofParts

theorem Within.sliceFrom_start : m.text.sliceFrom m.start = m.marked ++ m.after := by
  rw [hm.text_eq, hm.start_eq, Text.sliceFrom_natCast, List.append_assoc, List.drop_left]

theorem Within.width_eq : m.width = m.marked.length :=
  (congrArg MarkedLine.width hm.eq_ofParts).trans (width_ofParts _ _ _)

end Within

/-! ## Shortening in parts -/

section Shorten

variable (l : Limits) (b h a : Text)

/-- The first rule changes nothing but the mark. -/
theorem elideMark_ofParts : (ofParts b h a).elideMark l = ofParts b (l.shownMark h) a := by
  by_cases hw : h.length ≤ l.mark
  · rw [elideMark_eq_self (by simpa using hw), l.shownMark_eq_self hw]
  · have hroom := l.elided_le_mark
    have hlen := l.length_shownMark h
    rw [if_neg hw] at hlen
    -- both slices start inside the mark, for it is wider than two contexts and a gap
    have hto : (ofParts b h a).text.sliceTo ((ofParts b h a).start + l.context) = b ++ h.take l.context := by
      rw [start_ofParts, ← Int.natCast_add, Text.sliceTo_natCast, text_ofParts, List.append_assoc,
        List.take_length_add_append, List.take_append_of_le_length (by omega)]
    have hfrom : (ofParts b h a).text.sliceFrom (max 0 ((ofParts b h a).stop - l.context)) =
        h.drop (h.length - l.context) ++ a := by
      have hcast : max 0 (((b.length + h.length : Nat) : Int) - l.context) =
          (b.length + (h.length - l.context) : Nat) := by omega
      rw [stop_ofParts, hcast, Text.sliceFrom_natCast, text_ofParts, List.append_assoc, List.drop_length_add_append,
        List.drop_append_of_le_length (by omega)]
    have htext : b ++ h.take l.context ++ Mark.gap ++ (h.drop (h.length - l.context) ++ a) =
        b ++ l.shownMark h ++ a := by
      rw [l.shownMark_of_lt (by omega)]
      simp only [List.append_assoc]
    unfold elideMark
    rw [if_neg (by simpa using hw), hto, hfrom, htext]
    exact clamped_ofParts b _ a rfl (by rw [hlen])

/-- The text in the window: the ends of what stands on either side of the mark. -/
theorem windowText_ofParts :
    (ofParts b h a).windowText l = b.drop (b.length - l.context) ++ h ++ a.take l.context := by
  have hlo : max 0 (((b.length : Nat) : Int) - l.context) = (b.length - l.context : Nat) := by omega
  have hhi : ((b.length - l.context : Nat) : Int) + (min ((b.length : Nat) : Int) l.context +
      min ((h.length : Int) + l.context) (((b ++ h ++ a).length : Nat) - (b.length : Nat))) =
      (b.length + (h.length + min l.context a.length) : Nat) := by
    simp only [List.length_append]
    omega
  unfold windowText
  rw [width_ofParts, start_ofParts, text_ofParts, hlo, hhi, Text.slice_natCast, List.append_assoc,
    List.take_length_add_append, List.take_length_add_append, List.drop_append_of_le_length (by omega),
    List.append_assoc, ← List.take_eq_take_min]

theorem cutsHead_ofParts : (ofParts b h a).cutsHead l = decide (l.context < b.length) := by
  unfold cutsHead
  rw [start_ofParts]
  exact decide_eq_decide.2 (by omega)

theorem cutsTail_ofParts : (ofParts b h a).cutsTail l = decide (l.context < a.length) := by
  unfold cutsTail
  rw [start_ofParts, width_ofParts, text_ofParts, List.length_append, List.length_append]
  exact decide_eq_decide.2 (by omega)

/-- The mark starts in the window where what is shown before it ends. -/
theorem windowStart_ofParts : (ofParts b h a).windowStart l = (l.nearBefore b).length := by
  unfold windowStart
  rw [cutsHead_ofParts, l.length_nearBefore, start_ofParts]
  by_cases hb : b.length ≤ l.context
  · rw [if_neg (by simpa using hb), if_pos hb]
  · rw [if_pos (by simpa using hb), if_neg hb]

/-- The second rule keeps the mark, and on a line that is too long only what is near it. -/
theorem window_ofParts :
    (ofParts b h a).window l =
      if b.length + h.length + a.length ≤ l.line then ofParts b h a
      else ofParts (l.nearBefore b) h (l.nearAfter a) := by
  by_cases hfit : b.length + h.length + a.length ≤ l.line
  · rw [window_eq_self (by simpa [Nat.add_assoc] using hfit), if_pos hfit]
  · have htext : (if (ofParts b h a).cutsHead l then Mark.gap else []) ++ (ofParts b h a).windowText l ++
        (if (ofParts b h a).cutsTail l then Mark.cut else []) = l.nearBefore b ++ h ++ l.nearAfter a := by
      rw [windowText_ofParts, cutsHead_ofParts, cutsTail_ofParts, l.nearBefore_eq, l.nearAfter_eq]
      simp only [decide_eq_true_eq, List.append_assoc]
    unfold window
    rw [if_neg (by simpa [Nat.add_assoc] using hfit), if_neg hfit, htext]
    exact clamped_ofParts _ h _ (windowStart_ofParts l b h a) (by rw [width_ofParts])

/-- A shortened line in parts. Its mark does not depend on what stands round it. -/
theorem shorten_ofParts :
    (ofParts b h a).shorten l =
      if b.length + (l.shownMark h).length + a.length ≤ l.line then ofParts b (l.shownMark h) a
      else ofParts (l.nearBefore b) (l.shownMark h) (l.nearAfter a) := by
  unfold shorten
  rw [elideMark_ofParts, window_ofParts]

variable {m : MarkedLine} (hm : m.Within)
include hm

theorem Within.shorten : (m.shorten l).Within := by
  rw [hm.eq_ofParts, shorten_ofParts]
  split <;> exact within_ofParts _ _ _

theorem Within.marked_shorten : (m.shorten l).marked = l.shownMark m.marked := by
  rw [hm.eq_ofParts, shorten_ofParts, marked_ofParts]
  split <;> exact marked_ofParts _ _ _

/-- Nothing appears after a mark that reaches to the end of its line. -/
theorem Within.after_shorten (ha : m.after = []) : (m.shorten l).after = [] := by
  rw [hm.eq_ofParts, shorten_ofParts, ha, l.nearAfter_nil]
  split <;> exact after_ofParts _ _ _

end Shorten

end MarkedLine

end CodeFrame
