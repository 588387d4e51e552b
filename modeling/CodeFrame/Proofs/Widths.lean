import CodeFrame.Proofs.Rows
import CodeFrame.Proofs.Shortened

/-!
# How long a shortened line is

Shortening leaves characters out (`MarkedLine.leftOut`) and puts marks in their place (`MarkedLine.putIn`). The account
of both is kept part by part, and closing it gives the length of the shortened line
(`MarkedLine.Within.length_balance`). The middle of a wide mark is always longer than the gap that stands for it. On
either side of the mark, though, whatever is beyond the context is left out, be it a single character, and a gap in the
place of one character makes the line longer by four: a line may grow when it is cut, by seven characters at most
(`MarkedLine.length_shorten_le_iff`, `MarkedLine.length_shorten_of_cut_by_one`).

How long a line is after it was cut depends on the limits alone (`MarkedLine.Within.length_shorten_le_max`), so they
bound the rows of an excerpt, whatever is answered for the source (`width_of_any_view`).
-/

namespace CodeFrame

namespace Limits

variable (l : Limits)

/-! ## The account of one part -/

theorem length_nearBefore_le (t : Text) : (l.nearBefore t).length ≤ l.context + 5 := by
  rw [length_nearBefore]
  split
  · omega
  · exact Nat.le_refl _

theorem length_nearAfter_le (t : Text) : (l.nearAfter t).length ≤ l.context + 4 := by
  rw [length_nearAfter]
  split
  · omega
  · exact Nat.le_refl _

/-- Of `n` characters the context stays, and a mark of `k` characters stands for the others. -/
theorem context_balance (n k : Nat) :
    (if n ≤ l.context then n else l.context + k) + (n - l.context) = n + if l.context < n then k else 0 := by
  by_cases h : n ≤ l.context
  · rw [if_pos h, if_neg (by omega)]
    omega
  · rw [if_neg h, if_pos (by omega)]
    omega

theorem nearBefore_balance (t : Text) :
    (l.nearBefore t).length + (t.length - l.context) =
      t.length + if l.context < t.length then Mark.gap.length else 0 := by
  rw [length_nearBefore]
  exact l.context_balance _ _

theorem nearAfter_balance (t : Text) :
    (l.nearAfter t).length + (t.length - l.context) =
      t.length + if l.context < t.length then Mark.cut.length else 0 := by
  rw [length_nearAfter]
  exact l.context_balance _ _

theorem shownMark_balance (t : Text) :
    (l.shownMark t).length + (if l.mark < t.length then t.length - 2 * l.context else 0) =
      t.length + if l.mark < t.length then Mark.gap.length else 0 := by
  have hroom := l.elided_le_mark
  rw [length_shownMark]
  by_cases h : t.length ≤ l.mark
  · rw [if_pos h, if_neg (by omega), if_neg (by omega)]
  · rw [if_neg h, if_pos (by omega), if_pos (by omega)]
    unfold elided
    omega

/-- The middle of a wide mark is longer than the gap that stands for it. -/
theorem gap_le_middle (n : Nat) :
    (if l.mark < n then Mark.gap.length else 0) ≤ if l.mark < n then n - 2 * l.context else 0 := by
  have hroom := l.elided_le_mark
  split
  · omega
  · exact Nat.le_refl 0

/-- What is beyond the context may be a single character. -/
theorem mark_le_side (n k : Nat) : (if l.context < n then k else 0) ≤ (n - l.context) + (k - 1) := by
  split <;> omega

end Limits

namespace MarkedLine

/-! ## The account of a line -/

/-- How many characters of a line are left out when it is shortened: in the middle of its mark, and on both sides of the
mark unless the line fits then. -/
def leftOut (l : Limits) (m : MarkedLine) : Nat :=
  (if l.mark < m.marked.length then m.marked.length - 2 * l.context else 0) +
    if m.Fits l then 0 else (m.before.length - l.context) + (m.after.length - l.context)

/-- How many characters there are in the marks that stand for what is left out. -/
def putIn (l : Limits) (m : MarkedLine) : Nat :=
  (if l.mark < m.marked.length then Mark.gap.length else 0) +
    if m.Fits l then 0
    else
      (if l.context < m.before.length then Mark.gap.length else 0) +
        if l.context < m.after.length then Mark.cut.length else 0

/-- Two marks may stand for one character each. -/
theorem putIn_le (l : Limits) (m : MarkedLine) : m.putIn l ≤ m.leftOut l + 7 := by
  have hgap := Mark.length_gap
  have hcut := Mark.length_cut
  have hmiddle := l.gap_le_middle m.marked.length
  have hbefore := l.mark_le_side m.before.length Mark.gap.length
  have hafter := l.mark_le_side m.after.length Mark.cut.length
  unfold putIn leftOut
  by_cases hfit : m.Fits l
  · rw [if_pos hfit, if_pos hfit]
    omega
  · rw [if_neg hfit, if_neg hfit]
    omega

theorem length_text_ofParts (b h a : Text) :
    (ofParts b h a).text.length = b.length + h.length + a.length := by
  rw [text_ofParts, List.length_append, List.length_append]

section Length

variable (l : Limits) {m : MarkedLine} (hm : m.Within)
include hm

theorem Within.length_eq : m.text.length = m.before.length + m.marked.length + m.after.length := by
  rw [hm.text_eq]
  exact length_text_ofParts _ _ _

/-- A shortened line lacks the characters that were left out and has those that were put in. -/
theorem Within.length_balance : (m.shorten l).text.length + m.leftOut l = m.text.length + m.putIn l := by
  have hmark := l.shownMark_balance m.marked
  unfold leftOut putIn
  by_cases hfit : m.Fits l
  · rw [hm.shorten_of_fits l hfit, hm.length_eq, length_text_ofParts, if_pos hfit, if_pos hfit]
    omega
  · have hbefore := l.nearBefore_balance m.before
    have hafter := l.nearAfter_balance m.after
    rw [hm.shorten_of_not_fits l hfit, hm.length_eq, length_text_ofParts, if_neg hfit, if_neg hfit]
    omega

/-- The first rule makes no line longer. -/
theorem Within.length_elideMark_le : (m.elideMark l).text.length ≤ m.text.length := by
  have hmark := l.shownMark_balance m.marked
  have hmiddle := l.gap_le_middle m.marked.length
  rw [hm.elideMark_eq l, hm.length_eq, length_text_ofParts]
  omega

/-- However long a line is, the limits bound what is shown of it. -/
theorem Within.length_shorten_le_max : (m.shorten l).text.length ≤ max l.line (l.mark + 2 * l.context + 9) := by
  by_cases hfit : m.Fits l
  · have hline : m.before.length + (l.shownMark m.marked).length + m.after.length ≤ l.line := hfit
    rw [hm.shorten_of_fits l hfit, length_text_ofParts]
    omega
  · have hbefore := l.length_nearBefore_le m.before
    have hmark := l.length_shownMark_le m.marked
    have hafter := l.length_nearAfter_le m.after
    rw [hm.shorten_of_not_fits l hfit, length_text_ofParts]
    omega

end Length

/-- **When shortening makes no line longer.** A shortened line is no longer than the whole one exactly if the marks that
were put in are no longer than what was left out for them. Otherwise it is longer by seven characters at most. Only the
second rule does this: without the middle of its mark, no line is longer. -/
theorem length_shorten_le_iff (l : Limits) {m : MarkedLine} (hm : m.Within) :
    ((m.shorten l).text.length ≤ m.text.length ↔ m.putIn l ≤ m.leftOut l) ∧
      (m.shorten l).text.length ≤ m.text.length + 7 ∧ (m.elideMark l).text.length ≤ m.text.length := by
  have hbalance := hm.length_balance l
  have hput := putIn_le l m
  refine ⟨?_, ?_, hm.length_elideMark_le l⟩
  · constructor
    · intro hlength
      omega
    · intro hpaid
      omega
  · omega

/-- A gap in the place of one character, paid for by a cut in the place of eight. -/
theorem length_shorten_of_gap_paid_for :
    let l : Limits := { mark := 17, context := 6, line := 18 }
    let m : MarkedLine := ⟨List.replicate 22 'x', 7, 8⟩
    m.Within ∧ m.putIn l = 9 ∧ m.leftOut l = 9 ∧ (m.shorten l).text.length ≤ m.text.length := by
  intro l m
  have hm : m.Within := ⟨by decide, by decide, by decide⟩
  obtain ⟨hiff, -, -⟩ := length_shorten_le_iff l hm
  exact ⟨hm, by decide, by decide, hiff.2 (by decide)⟩

/-- At the standard limits, a line that is one character too long, and has one character more than the context on each
side of its mark: shortening makes it longer, by seven characters. -/
theorem length_shorten_of_cut_by_one :
    let m : MarkedLine := ⟨List.replicate 36 'a' ++ List.replicate 79 'b' ++ List.replicate 36 'c', 36, 115⟩
    m.Within ∧ m.text.length = 151 ∧ (m.shorten .standard).text.length = 158 ∧
      ¬ (m.shorten .standard).text.length ≤ m.text.length := by
  intro m
  have hm : m.Within := ⟨by decide +kernel, by decide +kernel, by decide +kernel⟩
  have hwhole : m.text.length = 151 := by decide +kernel
  have hshort : (m.shorten .standard).text.length = 158 := by decide +kernel
  exact ⟨hm, hwhole, hshort, by omega⟩

end MarkedLine

open Text

/-! ## The rows of an excerpt -/

namespace Excerpt

variable {e : Excerpt}

/-- The source shows the whole of the shortened line, in both layouts. -/
theorem paint_source (hw : e.line.Within) : paint Palette.plain.painter e.source = e.line.text := by
  have hafter : e.line.marked ++ e.line.after = e.line.text.sliceFrom e.line.start := hw.sliceFrom_start.symm
  have hcut : e.line.before ++ e.line.text.sliceFrom e.line.start = e.line.text := sliceTo_append_sliceFrom _ _
  rw [paint_plain]
  unfold source
  by_cases hg : e.goesOn
  · simp [hg, Run.text, hcut]
  · simp [hg, Run.text, hafter, hcut]

theorem paint_numberedRow (line : Int) (source : List Run) :
    paint Palette.plain.painter (numberedRow line source) =
      decimal line ++ Mark.frame ++ paint Palette.plain.painter source := by
  rw [numberedRow, paint_cons]
  rfl

theorem paint_indentedRow (line : Int) (carets : List Run) :
    paint Palette.plain.painter (indentedRow line carets) =
      spaces (Margin.room line) ++ Mark.frame ++ paint Palette.plain.painter carets := by
  rw [indentedRow, paint_append]
  rfl

/-- The carets end where the mark ends. -/
theorem length_carets_le (hw : e.line.Within) (h : e.start.line = e.stop.line) :
    (paint Palette.plain.painter e.carets).length ≤ e.line.text.length := by
  rw [paint_plain, carets_of_same_line hw h, hw.length_eq]
  simp [Run.text]

end Excerpt

section Found

open Excerpt

variable {σ ε : Type} {find : Finder σ ε} {st : σ} {v : LineView} {name : Text} {s : Span}

/-- **The limits bound the width of an excerpt.** Whatever is answered for the source, and whether or not the span ends
on its line: behind its margin, the source row has no more characters than the longest line that is shown whole, or than
the widest mark with the context and a mark for left-out text on both sides. If the span ends on its line, then the caret
row is no longer than the source row, behind their margins. If a number is too long, neither of the two is written. -/
theorem width_of_any_view (l : Limits) (message : Text) (hs : s.source = some name)
    (hf : (find name st).1 = .ok v) :
    let plain := paint Palette.plain.painter
    let o := (perform find (excerptScript l (some s) message) st).1
    let e := ofView l v name s message
    let p := v.position s.start
    (p.Fits → o = ⟨[headedRow name message p, unnumberedRow p.line, numberedRow p.line e.source,
        indentedRow p.line e.carets, []].flatMap (· ++ [lineEnd]), [name], none⟩) ∧
      (¬ p.Fits → o = ⟨if p.line = -(tooLong : Int) ∧ Fits (p.column + 1) then begun name message p else [], [name],
        some (.fault .numeralTooLong)⟩) ∧
      plain (numberedRow p.line e.source) = decimal p.line ++ Mark.frame ++ e.line.text ∧
      e.line.text.length ≤ max l.line (l.mark + 2 * l.context + 9) ∧
      (p.line = (v.position s.stop).line →
        ∃ carets, plain (indentedRow p.line e.carets) = spaces (Margin.room p.line) ++ Mark.frame ++ carets ∧
          carets.length ≤ e.line.text.length) := by
  intro plain o e p
  have hw : e.line.Within := within_line l v name s message
  have hwhole : (wholeLine v s).Within := MarkedLine.within_clamped _ _ _
  refine ⟨fun hp => ?_, outcome_excerptScript_of_not_fits l message hs hf, ?_, hwhole.length_shorten_le_max l,
    fun hsame => ⟨_, paint_indentedRow _ _, length_carets_le hw hsame⟩⟩
  · have ho : o = _ := outcome_excerptScript_of_fits l message hs hf hp
    rw [ho, framed_eq_flatMap]
    rfl
  · show paint Palette.plain.painter (numberedRow p.line e.source) = _
    rw [paint_numberedRow, paint_source hw]

/-- A line that is cut on both sides of a mark of the greatest width: the bound is reached. -/
theorem width_of_widest_row :
    let plain := paint Palette.plain.painter
    let l : Limits := { mark := 17, context := 6, line := 18 }
    let text := List.replicate 7 '\t' ++ List.replicate 17 'a' ++ List.replicate 7 'b'
    let v : LineView := ⟨fun _ => text, fun offset => ⟨-4, offset⟩⟩
    let find : Finder Nat Fault := fun _ asked => (.ok v, asked + 1)
    let s : Span := { source := some ['t'], start := 7, stop := 24 }
    let e := ofView l v ['t'] s []
    s.source = some ['t'] ∧ (find ['t'] 0).1 = .ok v ∧ (v.position s.start).Fits ∧
      (v.position s.start).line = (v.position s.stop).line ∧
      (perform find (excerptScript l (some s) []) 0).1 =
        ⟨[headedRow ['t'] [] ⟨-4, 7⟩, unnumberedRow (-4), numberedRow (-4) e.source, indentedRow (-4) e.carets,
          []].flatMap (· ++ [lineEnd]), [['t']], none⟩ ∧
      plain (numberedRow (-4) e.source) = ['-', '4', ' ', '|', ' '] ++ e.line.text ∧
      e.line.text.length = 38 ∧ e.line.text.length ≤ max l.line (l.mark + 2 * l.context + 9) ∧
      ∃ carets, plain (indentedRow (-4) e.carets) = [' ', ' ', '|', ' '] ++ carets ∧
        carets.length ≤ e.line.text.length := by
  intro plain l text v find s e
  have hs : s.source = some ['t'] := rfl
  have hf : (find ['t'] 0).1 = .ok v := rfl
  have hp : (v.position s.start).Fits := ⟨by decide, by decide, by decide⟩
  have hsame : (v.position s.start).line = (v.position s.stop).line := rfl
  have hroom : Margin.room (v.position s.start).line = 1 := Margin.room_of_nonpos (by decide)
  obtain ⟨hwhole, -, hsource, hwidth, hcarets⟩ := width_of_any_view l [] hs hf
  obtain ⟨carets, hrow, hlength⟩ := hcarets hsame
  rw [hroom] at hrow
  exact ⟨hs, hf, hp, hsame, hwhole hp, hsource, by decide, hwidth, carets, hrow, hlength⟩

end Found

end CodeFrame
