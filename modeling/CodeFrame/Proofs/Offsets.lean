import CodeFrame.Proofs.Catalog
import CodeFrame.Proofs.Cuts
import CodeFrame.Proofs.Layout

/-!
# Excerpts by offsets

What an excerpt shows of a text that a catalog holds, told by offsets in the text alone. A span whose two places have no
newline between them is underlined on its line (`excerpt_of_span_on_line`); any other one is shown from its start to the
end of the line, with one caret and a note below it (`excerpt_of_span_over_lines`).

Columns are measured from the start of the line, and the text of the line is a part of the text; so the mark between two
columns is the text between two offsets, as far as the line reaches (`slice_lineFrom`).
-/

namespace CodeFrame

open Text Excerpt

/-! ## Columns of a line -/

section Columns

variable {S : Text} {p q : Nat}

/-- What lies between two columns of a line lies between two offsets of the text, as far as the line reaches. -/
theorem slice_lineFrom (S : Text) {start : Nat} (hp : start ≤ p) (hpq : p ≤ q) :
    ((S.lineFrom start).take (q - start)).drop (p - start) =
      (S.take (min q (start + (S.lineFrom start).length))).drop p := by
  have hline : S.lineFrom start = (S.drop start).take (S.lineFrom start).length :=
    List.prefix_iff_eq_take.1 (lineFrom_prefix_drop S start)
  generalize (S.lineFrom start).length = n at hline
  have htake : (S.take (min q (start + n))).drop start = (S.drop start).take (min (q - start) n) := by
    rw [List.drop_take]
    congr 1
    omega
  calc ((S.lineFrom start).take (q - start)).drop (p - start)
      = ((S.drop start).take (min (q - start) n)).drop (p - start) := by rw [hline, List.take_take]
    _ = ((S.take (min q (start + n))).drop start).drop (p - start) := by rw [htake]
    _ = (S.take (min q (start + n))).drop p := by rw [List.drop_drop, Nat.add_sub_cancel' hp]

end Columns

/-! ## The view of a line table -/

section View

variable (S : Text) (offset : Nat)

theorem view_position :
    (LineTable.ofText S).view.position offset =
      ⟨(S.take (min offset S.length)).count '\n',
        (min offset S.length - lastStart (S.take (min offset S.length)) : Nat)⟩ :=
  LineTable.position_ofText S offset

theorem view_lineAt :
    (LineTable.ofText S).view.lineAt offset = S.lineFrom (lastStart (S.take (min offset S.length))) :=
  LineTable.lineAt_ofText S offset

end View

section Span

variable {S : Text} {s : Span}

theorem places_le (S : Text) (s : Span) : min s.start S.length ≤ min s.stop S.length := by
  have := s.start_le_stop
  omega

/-- A span ends on the line it starts on exactly if there is no newline between its places. -/
theorem view_line_eq_iff :
    ((LineTable.ofText S).view.position s.start).line = ((LineTable.ofText S).view.position s.stop).line ↔
      '\n' ∉ (S.take (min s.stop S.length)).drop (min s.start S.length) := by
  rw [view_position, view_position, Int.natCast_inj]
  exact count_take_eq_iff (places_le S s)

/-- The mark of a span on one line: the text between its places, as far as the line reaches. -/
theorem marked_wholeLine (hn : '\n' ∉ (S.take (min s.stop S.length)).drop (min s.start S.length)) :
    (wholeLine (LineTable.ofText S).view s).marked =
      (S.take (min (min s.stop S.length) (lastStart (S.take (min s.start S.length)) +
        (S.lineFrom (lastStart (S.take (min s.start S.length)))).length))).drop (min s.start S.length) := by
  have hpq := places_le S s
  unfold wholeLine stopColumn
  rw [if_pos (view_line_eq_iff.2 hn), view_position, view_position, view_lineAt, lastStart_take_eq hpq hn,
    MarkedLine.marked_clamped _ (by omega), slice_lineFrom S (lastStart_take_le S _) hpq]

/-- The mark of a span on several lines reaches from its start to the end of the first line. -/
theorem wholeLine_of_newline (hn : '\n' ∈ (S.take (min s.stop S.length)).drop (min s.start S.length)) :
    (wholeLine (LineTable.ofText S).view s).marked =
        ((LineTable.ofText S).lineAt s.start).drop
          (min (min s.start S.length - lastStart (S.take (min s.start S.length)))
            ((LineTable.ofText S).lineAt s.start).length) ∧
      (wholeLine (LineTable.ofText S).view s).after = [] := by
  have hline : (LineTable.ofText S).view.lineAt s.start = (LineTable.ofText S).lineAt s.start := rfl
  unfold wholeLine stopColumn
  rw [if_neg fun h => view_line_eq_iff.1 h hn, view_position, hline]
  exact ⟨MarkedLine.marked_clamped_length _ _, MarkedLine.after_clamped _ _⟩

end Span

/-! ## Excerpts -/

section Found

variable {c : Catalog} {S name : Text} {s : Span}

/-- The excerpt of a text that a catalog holds is written whole. -/
theorem outcome_excerptScript_of_text (l : Limits) (message : Text) (hc : c.textOf? name = some S)
    (hs : s.source = some name) :
    let e := ofView l (LineTable.ofText S).view name s message
    (perform Catalog.find (excerptScript l (some s) message) c).1 =
      ⟨framed name message ((LineTable.ofText S).view.position s.start) e.source e.carets, [name], none⟩ :=
  outcome_excerptScript_of_fits l message hs (congrArg Prod.fst (Catalog.find_eq_ok hc))
    (LineTable.position_fits (Catalog.fits_of_textOf? hc) s.start)

/-- **A span on one line.** The excerpt is written whole. With `p` and `q` for the places of the span, its heading gives
the newlines before `p` and the distance from the last of them, each counted from one, its margin the line counted from
zero; and the text from `p` to `q`, as far as the line reaches, is highlighted and underlined, without its middle if it
is too wide. -/
theorem excerpt_of_span_on_line (l : Limits) (message : Text) (painter : Painter) (hc : c.textOf? name = some S)
    (hs : s.source = some name)
    (hn : '\n' ∉ (S.take (min s.stop S.length)).drop (min s.start S.length)) :
    let p := min s.start S.length
    let q := min s.stop S.length
    let start := lastStart (S.take p)
    let line := S.lineFrom start
    let mark := l.shownMark ((S.take (min q (start + line.length))).drop p)
    ∃ before after,
      let runs := framed name message ⟨(S.take p).count '\n', (p - start : Nat)⟩
        [.bare before, .styled .highlight mark, .bare after]
        [.bare (blanked before), .styled .diagnostic (Mark.carets mark.length)]
      (perform Catalog.find (excerptScript l (some s) message) c).1 = ⟨runs, [name], none⟩ ∧
      (perform Catalog.find (excerptScript l (some s) message) c).1.result painter = .ok (paint painter runs) := by
  intro p q start line mark
  have hw := within_line l (LineTable.ofText S).view name s message
  have hmark : (ofView l (LineTable.ofText S).view name s message).line.marked = mark :=
    (marked_line _ _ _ _ _).trans (congrArg l.shownMark (marked_wholeLine hn))
  have hline := view_line_eq_iff.2 hn
  have hsource := source_of_same_line (e := ofView l (LineTable.ofText S).view name s message) hline
  have hcarets := carets_of_same_line hw hline
  rw [hmark] at hsource hcarets
  rw [outcome_excerptScript_of_text l message hc hs, hsource, hcarets, view_position S s.start]
  exact ⟨_, _, rfl, rfl⟩

/-- A wide mark on a long line after another line: both its middle and what is far from it are left out. -/
theorem excerpt_of_wide_span_on_line :
    let l : Limits := { mark := 7, context := 1, line := 1 }
    let S : Text := ['x', '\n', '\t', 'k', 'a', 'b', 'c', 'd', 'e', 'f', 'g', 'h', 'i', 'j', 'l', '\r', '\n']
    let c := Catalog.empty.add ['t'] { text := S }
    let s : Span := { source := some ['t'], start := 4, stop := 13 }
    c.textOf? ['t'] = some S ∧ s.source = some ['t'] ∧
      '\n' ∉ (S.take (min s.stop S.length)).drop (min s.start S.length) ∧
      ∃ before after, (perform Catalog.find (excerptScript l (some s) []) c).1 =
        ⟨framed ['t'] [] ⟨1, 2⟩
          [.bare before, .styled .highlight ['a', ' ', '.', '.', '.', ' ', 'i'], .bare after]
          [.bare (blanked before), .styled .diagnostic (Mark.carets 7)], [['t']], none⟩ := by
  intro l S c s
  have hc : c.textOf? ['t'] = some S := rfl
  have hs : s.source = some ['t'] := rfl
  have hn : '\n' ∉ (S.take (min s.stop S.length)).drop (min s.start S.length) := by decide
  have hstart : lastStart (S.take (min s.start S.length)) = 2 := by decide
  have hcount : (S.take (min s.start S.length)).count '\n' = 1 := by decide
  have hmark : l.shownMark
      ((S.take (min (min s.stop S.length) (2 + (S.lineFrom 2).length))).drop (min s.start S.length)) =
        ['a', ' ', '.', '.', '.', ' ', 'i'] := by decide
  obtain ⟨before, after, h, -⟩ := excerpt_of_span_on_line l [] (fun _ t => t) hc hs hn
  rw [hstart, hcount, hmark] at h
  exact ⟨hc, hs, hn, before, after, h⟩

/-- **A span on several lines.** The note below the caret is written exactly if there is a newline between the places of
the span. Then the rest of the first line is highlighted, without its middle if it is too wide; nothing follows it in
the row; and the caret stands below its first character. -/
theorem excerpt_of_span_over_lines (l : Limits) (message : Text) (hc : c.textOf? name = some S)
    (hs : s.source = some name) :
    let p := min s.start S.length
    let q := min s.stop S.length
    let line := (LineTable.ofText S).lineAt s.start
    let column := p - lastStart (S.take p)
    let mark := l.shownMark (line.drop (min column line.length))
    let o := (perform Catalog.find (excerptScript l (some s) message) c).1
    let m := (ofView l (LineTable.ofText S).view name s message).line
    o.failure = none ∧
      ([continuation, lineEnd, lineEnd] <:+ o.written ↔ '\n' ∈ (S.take q).drop p) ∧
      ('\n' ∈ (S.take q).drop p →
        o.written = framed name message ⟨(S.take p).count '\n', column⟩
          [.bare m.before, .styled .highlight mark] [.bare (spaces m.before.length), continuation] ∧
        m.text = m.before ++ mark ∧ m.start = m.before.length ∧
        m.text.sliceFrom m.start = mark ∧ m.marked = mark ∧ m.after = []) := by
  intro p q line column mark o m
  have hw : m.Within := within_line l (LineTable.ofText S).view name s message
  have ho : o = _ := outcome_excerptScript_of_text l message hc hs
  rw [ho]
  by_cases hn : '\n' ∈ (S.take q).drop p
  · obtain ⟨hmarked, hafter⟩ := wholeLine_of_newline hn
    have hm : m.marked = mark := (marked_line _ _ _ _ _).trans (congrArg l.shownMark hmarked)
    have ha : m.after = [] := MarkedLine.Within.after_shorten l (MarkedLine.within_clamped _ _ _) hafter
    have hfrom : m.text.sliceFrom m.start = mark := by rw [hw.sliceFrom_start, ha, hm, List.append_nil]
    have htext : m.text = m.before ++ mark := by rw [hw.text_eq, ha, hm, List.append_nil]
    have hother : ((LineTable.ofText S).view.position s.start).line ≠ ((LineTable.ofText S).view.position s.stop).line :=
      fun h => view_line_eq_iff.1 h hn
    have hpad : m.start.toNat = m.before.length := by rw [hw.start_eq, Int.toNat_natCast]
    have hsource : (ofView l (LineTable.ofText S).view name s message).source =
        [.bare m.before, .styled .highlight mark] := by
      rw [source_of_other_line hother, ← hfrom]
    have hcarets : (ofView l (LineTable.ofText S).view name s message).carets =
        [.bare (spaces m.before.length), continuation] := by
      rw [carets_of_other_line hother, ← hpad]
    rw [hsource, hcarets, view_position S s.start]
    exact ⟨rfl, iff_of_true (suffix_framed_iff.2 rfl) hn, fun _ => ⟨rfl, htext, hw.start_eq, hfrom, hm, ha⟩⟩
  · rw [carets_of_same_line hw (view_line_eq_iff.2 hn)]
    exact ⟨rfl, iff_of_false (fun h => continuation_ne_carets _ (suffix_framed_iff.1 h)) hn, fun h => absurd h hn⟩

/-- A span that ends just after a newline goes on, though it holds nothing of the next line. -/
theorem excerpt_of_span_to_next_line :
    let l : Limits := { mark := 7, context := 1, line := 1 }
    let S : Text := ['x', 'y', 'a', 'b', 'c', 'd', 'e', 'f', 'g', 'h', '\r', '\n', 'z']
    let c := Catalog.empty.add ['t'] { text := S }
    let s : Span := { source := some ['t'], start := 2, stop := 12 }
    let o := (perform Catalog.find (excerptScript l (some s) []) c).1
    let m := (ofView l (LineTable.ofText S).view ['t'] s []).line
    c.textOf? ['t'] = some S ∧ s.source = some ['t'] ∧
      o.written = framed ['t'] [] ⟨0, 2⟩
        [.bare m.before, .styled .highlight ['a', ' ', '.', '.', '.', ' ', 'h']]
        [.bare (spaces m.before.length), continuation] ∧
      m.after = [] := by
  intro l S c s o m
  have hc : c.textOf? ['t'] = some S := rfl
  have hs : s.source = some ['t'] := rfl
  have hn : '\n' ∈ (S.take (min s.stop S.length)).drop (min s.start S.length) := by decide
  have hline : (LineTable.ofText S).lineAt s.start = ['x', 'y', 'a', 'b', 'c', 'd', 'e', 'f', 'g', 'h'] := by
    rw [LineTable.lineAt_ofText]
    decide
  obtain ⟨-, -, h⟩ := excerpt_of_span_over_lines l [] hc hs
  obtain ⟨hwritten, -, -, -, -, hafter⟩ := h hn
  rw [hline] at hwritten
  exact ⟨hc, hs, hwritten, hafter⟩

end Found

end CodeFrame
