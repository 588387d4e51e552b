import CodeFrame.Proofs.Catalog
import CodeFrame.Proofs.Layout
import CodeFrame.Proofs.Lines
import CodeFrame.Proofs.Progress

/-!
# Control characters in a report

What a report adds to the words it is given (marks, numerals, blanks) holds no control character, but for the newlines
at the ends of its rows. So a control character stands inside a run only if it stands in one of the strings that were
given: a name, a comment, a message, the name of a source, the text of a line (`Diagnostic.Lacks`,
`lacks_of_mem_written`). Shortening a line does not bring one in either (`MarkedLine.Within.notMem_shorten`).
-/

namespace CodeFrame

/-! ## Text without control characters -/

namespace Text

/-- No character of the text is a control character. -/
def ControlFree (t : Text) : Prop := ∀ c ∈ t, ' ' ≤ c

instance (t : Text) : Decidable t.ControlFree := List.decidableBAll (' ' ≤ ·) t

variable {c : Char} {s t : Text}

theorem ControlFree.notMem (h : t.ControlFree) (hc : c < ' ') : c ∉ t := fun hmem => Nat.not_lt.2 (h c hmem) hc

theorem ControlFree.append (hs : s.ControlFree) (ht : t.ControlFree) : ControlFree (s ++ t) :=
  List.forall_mem_append.2 ⟨hs, ht⟩

theorem controlFree_replicate {c : Char} (h : ' ' ≤ c) (n : Nat) : ControlFree (List.replicate n c) := by
  intro c' hc'
  rw [List.eq_of_mem_replicate hc']
  exact h

theorem controlFree_decimal (n : Int) : (decimal n).ControlFree := by
  intro c hc
  rcases mem_decimal hc with rfl | hdigit
  · decide
  · unfold Char.isDigit at hdigit
    simp only [Bool.and_eq_true, decide_eq_true_eq] at hdigit
    exact Nat.le_trans (by decide) hdigit.1

/-- Blanks hold no control character but the tabs of the text. -/
theorem notMem_blanked (hc : c < ' ') (h : c ∉ t) : c ∉ t.blanked := by
  intro hmem
  obtain ⟨x, hx, hxc⟩ := List.mem_map.1 hmem
  split at hxc
  · next htab =>
    subst htab hxc
    exact h hx
  · subst hxc
    exact absurd hc (by decide)

end Text

open Text

/-! ## Shortened lines -/

section Shorten

variable {c : Char} {l : Limits}

namespace Limits

theorem notMem_shownMark (hc : c < ' ') {t : Text} (h : c ∉ t) : c ∉ l.shownMark t := by
  unfold shownMark
  split
  · exact h
  · have hgap : c ∉ Mark.gap := ControlFree.notMem (by decide) hc
    simp only [List.mem_append, not_or]
    exact ⟨⟨fun hm => h (List.mem_of_mem_take hm), hgap⟩, fun hm => h (List.mem_of_mem_drop hm)⟩

theorem notMem_nearBefore (hc : c < ' ') {t : Text} (h : c ∉ t) : c ∉ l.nearBefore t := by
  unfold nearBefore
  split
  · exact h
  · have hgap : c ∉ Mark.gap := ControlFree.notMem (by decide) hc
    rw [List.mem_append, not_or]
    exact ⟨hgap, fun hm => h (List.mem_of_mem_drop hm)⟩

theorem notMem_nearAfter (hc : c < ' ') {t : Text} (h : c ∉ t) : c ∉ l.nearAfter t := by
  unfold nearAfter
  split
  · exact h
  · have hcut : c ∉ Mark.cut := ControlFree.notMem (by decide) hc
    rw [List.mem_append, not_or]
    exact ⟨fun hm => h (List.mem_of_mem_take hm), hcut⟩

end Limits

namespace MarkedLine

variable {m : MarkedLine}

theorem Within.notMem_text_iff (hm : m.Within) : c ∉ m.text ↔ c ∉ m.before ∧ c ∉ m.marked ∧ c ∉ m.after := by
  rw [hm.text_eq]
  simp only [List.mem_append, not_or, and_assoc]

/-- A control character stands on a shortened line only if it stands on the whole one. -/
theorem Within.notMem_shorten (l : Limits) (hm : m.Within) (hc : c < ' ') (h : c ∉ m.text) :
    c ∉ (m.shorten l).text := by
  obtain ⟨hb, hh, ha⟩ := hm.notMem_text_iff.1 h
  have hmark := Limits.notMem_shownMark (l := l) hc hh
  rw [hm.eq_ofParts, shorten_ofParts]
  split
  · rw [text_ofParts]
    simp only [List.mem_append, not_or]
    exact ⟨⟨hb, hmark⟩, ha⟩
  · rw [text_ofParts]
    simp only [List.mem_append, not_or]
    exact ⟨⟨Limits.notMem_nearBefore hc hb, hmark⟩, Limits.notMem_nearAfter hc ha⟩

end MarkedLine

end Shorten

/-! ## Runs -/

/-- The text of a run, whatever its role. -/
def Run.text : Run → Text
  | .bare t => t
  | .styled _ t => t

/-- The run ends a row, or does not hold the character. -/
def Run.Lacks (c : Char) (r : Run) : Prop := r = Excerpt.lineEnd ∨ c ∉ r.text

theorem Run.Lacks.notMem_styled {c : Char} {role : Role} {t : Text} (h : Run.Lacks c (.styled role t)) : c ∉ t := by
  rcases h with h | h
  · cases h
  · exact h

section Runs

variable {c : Char} (hc : c < ' ')
include hc

namespace Excerpt

section Rows

variable {name message : Text} {p : Position} {e : Excerpt}

theorem notMem_room (line : Int) : c ∉ spaces (Margin.room line) :=
  ControlFree.notMem (controlFree_replicate (by decide) _) hc

theorem notMem_headed (hname : c ∉ name) : ∀ r ∈ headed name p, c ∉ r.text := by
  have harrow : c ∉ Mark.arrow := ControlFree.notMem (by decide) hc
  have hplace : c ∉ name ++ ':' :: decimal (p.line + 1) ++ ':' :: decimal (p.column + 1) ++ ": ".toList := by
    have hcolon : ControlFree [':'] := by decide
    have hend : ControlFree ": ".toList := by decide
    have hplain := ((hcolon.append (controlFree_decimal (p.line + 1))).append
      (hcolon.append (controlFree_decimal (p.column + 1)))).append hend
    intro hmem
    simp only [List.append_assoc] at hmem
    rcases List.mem_append.1 hmem with hmem | hmem
    · exact hname hmem
    · exact hplain.notMem hc (by simpa using hmem)
  unfold headed
  simp only [List.forall_mem_cons]
  exact ⟨notMem_room hc p.line, harrow, hplace, by simp⟩

omit hc in
/-- The source is cut from the line. -/
theorem notMem_source (hline : c ∉ e.line.text) : ∀ r ∈ e.source, c ∉ r.text := by
  have hbefore : c ∉ e.line.before := fun h => hline (List.mem_of_mem_take h)
  have hmarked : c ∉ e.line.marked := fun h => hline (List.mem_of_mem_take (List.mem_of_mem_drop h))
  have hafter : c ∉ e.line.after := fun h => hline (List.mem_of_mem_drop h)
  have hfrom : c ∉ e.line.text.sliceFrom e.line.start := fun h => hline (List.mem_of_mem_drop h)
  unfold source
  refine List.forall_mem_cons.2 ⟨hbefore, ?_⟩
  split
  · exact List.forall_mem_singleton.2 hfrom
  · simp only [List.forall_mem_cons]
    exact ⟨hmarked, hafter, by simp⟩

/-- Below the source there are only blanks, carets and the note. -/
theorem notMem_carets (hline : c ∉ e.line.text) : ∀ r ∈ e.carets, c ∉ r.text := by
  have hunder : c ∉ Margin.under e.line.text e.line.start :=
    notMem_blanked hc fun h => hline (List.mem_of_mem_take h)
  have hcarets : c ∉ Mark.carets e.line.width.toNat := ControlFree.notMem (controlFree_replicate (by decide) _) hc
  have hspaces : c ∉ spaces e.line.start.toNat := ControlFree.notMem (controlFree_replicate (by decide) _) hc
  have hnote : c ∉ Mark.caret ++ ' ' :: Mark.continues := ControlFree.notMem (by decide) hc
  unfold carets
  split
  · simp only [List.forall_mem_cons]
    exact ⟨hspaces, hnote, by simp⟩
  · simp only [List.forall_mem_cons]
    exact ⟨hunder, hcarets, by simp⟩

theorem notMem_headedRow (hname : c ∉ name) (hmessage : c ∉ message) : ∀ r ∈ headedRow name message p, c ∉ r.text := by
  unfold headedRow
  refine List.forall_mem_append.2 ⟨notMem_headed hc hname, ?_⟩
  split
  · exact fun r hr => (by cases hr)
  · exact List.forall_mem_singleton.2 hmessage

section Margin

variable {line : Int} {source carets : List Run}

theorem notMem_unnumberedRow : ∀ r ∈ unnumberedRow line, c ∉ r.text := by
  have hframe : c ∉ Mark.bareFrame := ControlFree.notMem (by decide) hc
  exact List.forall_mem_cons.2 ⟨notMem_room hc line, List.forall_mem_singleton.2 hframe⟩

theorem notMem_numberedRow (hsource : ∀ r ∈ source, c ∉ r.text) : ∀ r ∈ numberedRow line source, c ∉ r.text := by
  have hframe : ControlFree Mark.frame := by decide
  have hmargin : c ∉ decimal line ++ Mark.frame := ControlFree.notMem ((controlFree_decimal line).append hframe) hc
  exact List.forall_mem_cons.2 ⟨hmargin, hsource⟩

theorem notMem_indentedRow (hcarets : ∀ r ∈ carets, c ∉ r.text) : ∀ r ∈ indentedRow line carets, c ∉ r.text := by
  have hframe : c ∉ Mark.frame := ControlFree.notMem (by decide) hc
  exact List.forall_mem_cons.2 ⟨notMem_room hc line, List.forall_mem_cons.2 ⟨hframe, hcarets⟩⟩

end Margin

/-- A control character stands in a row only if it stands in the name, the message, the source or the carets. -/
theorem notMem_framedRows {source carets : List Run} (hname : c ∉ name) (hmessage : c ∉ message)
    (hsource : ∀ r ∈ source, c ∉ r.text) (hcarets : ∀ r ∈ carets, c ∉ r.text) :
    ∀ row ∈ framedRows name message p source carets, ∀ r ∈ row, c ∉ r.text := by
  unfold framedRows
  simp only [List.forall_mem_cons]
  exact ⟨notMem_headedRow hc hname hmessage, notMem_unnumberedRow hc, notMem_numberedRow hc hsource,
    notMem_indentedRow hc hcarets, by simp, by simp⟩

end Rows

/-- A control character stands on the printed line only if the view answers with it. -/
theorem notMem_line (l : Limits) {v : LineView} {name message : Text} {s : Span} (hline : c ∉ v.lineAt s.start) :
    c ∉ (ofView l v name s message).line.text :=
  (MarkedLine.within_clamped _ _ _).notMem_shorten l hc hline

/-- A control character stands in an excerpt, whole or not, only if it stands in the name, the message or the line. -/
theorem lacks_drawing (l : Limits) {v : LineView} {name message : Text} {s : Span} (hname : c ∉ name)
    (hmessage : c ∉ message) (hline : c ∉ v.lineAt s.start) :
    ∀ r ∈ (ofView l v name s message).drawing.runs, r.Lacks c := by
  intro r hr
  have hframed := (runs_ofRows_isPrefix _ _ _ _).subset hr
  rw [framed_eq_flatMap] at hframed
  obtain ⟨row, hrow, hr⟩ := List.mem_flatMap.1 hframed
  have hprinted : c ∉ (ofView l v name s message).line.text := notMem_line hc l hline
  rcases List.mem_append.1 hr with hr | hr
  · have hsource := notMem_source hprinted
    have hcarets := notMem_carets hc hprinted
    exact Or.inr (notMem_framedRows hc hname hmessage hsource hcarets row hrow r hr)
  · exact Or.inl (List.mem_singleton.1 hr)

end Excerpt

/-- A control character stands before the excerpts of a diagnostic only if it stands in its name or its comment. -/
theorem Diagnostic.lacks_introduction {d : Diagnostic} (hname : c ∉ d.name) (hcomment : ∀ t ∈ d.comment, c ∉ t) :
    ∀ r ∈ d.introduction, r.Lacks c := by
  have hend : Excerpt.lineEnd.Lacks c := Or.inl rfl
  have hheadline : ∀ r ∈ d.headlineRuns, r.Lacks c := by
    unfold headlineRuns
    refine List.forall_mem_cons.2 ⟨Or.inr hname, ?_⟩
    cases h : d.comment with
    | none => exact fun r hr => (by cases hr)
    | some t =>
      have hcolon : c ∉ ": ".toList := ControlFree.notMem (by decide) hc
      refine List.forall_mem_cons.2 ⟨Or.inr ?_, fun r hr => (by cases hr)⟩
      rw [Run.text, List.mem_append, not_or]
      exact ⟨hcolon, hcomment t h⟩
  unfold introduction
  simp only [List.forall_mem_append]
  cases d.hasPlace <;> simpa using ⟨hheadline, hend⟩

end Runs

/-! ## Whole reports -/

section Report

variable {σ ε : Type}

/-- None of the strings that a diagnostic brings into a report holds the character, nor does any line that the finder
may answer with for one of its places. -/
structure Diagnostic.Lacks (find : Finder σ ε) (st : σ) (c : Char) (d : Diagnostic) : Prop where
  name : c ∉ d.name
  comment : ∀ t ∈ d.comment, c ∉ t
  message : ∀ r ∈ d.related, c ∉ r.message
  source : ∀ name ∈ d.sources, c ∉ name
  line : ∀ r ∈ d.places, ∀ name ∈ r.location.source, ∀ s v, find.Leads st s → (find name s).1 = .ok v →
    c ∉ v.lineAt r.location.start

/-- What a report is written from: the introductions of its diagnostics, and the excerpts of their named places. -/
theorem mem_diagnosticsScript {l : Limits} {ds : List Diagnostic} {i : Instruction}
    (h : i ∈ diagnosticsScript l ds) :
    ∃ d ∈ ds, i = .write d.introduction ∨ ∃ r ∈ d.places, ∃ name, r.location.source = some name ∧
      i = .quote name fun v => (Excerpt.ofView l v name r.location r.message).drawing := by
  obtain ⟨d, hd, hi⟩ := List.mem_flatMap.1 h
  rw [Diagnostic.script_eq, Diagnostic.scriptUpTo, List.mem_cons] at hi
  refine ⟨d, hd, hi.imp_right fun hi => ?_⟩
  obtain ⟨r, hr, hi⟩ := List.mem_flatMap.1 hi
  cases hs : r.location.source with
  | none =>
    rw [Related.script_of_unnamed hs] at hi
    cases hi
  | some name =>
    rw [Related.script_of_named hs, List.mem_singleton] at hi
    exact ⟨r, hr, name, hs, hi⟩

theorem Diagnostic.notMem_message {c : Char} {d : Diagnostic} (h : ∀ r ∈ d.related, c ∉ r.message) :
    ∀ r ∈ d.places, c ∉ r.message := by
  intro r hr
  rcases List.mem_append.1 hr with hr | hr
  · -- of the primary place, nothing is said
    obtain ⟨s, -, rfl⟩ := Option.map_eq_some_iff.1 (Option.mem_toList.1 hr)
    exact List.not_mem_nil
  · exact h r hr

/-- **What a report writes holds no control character that is in none of its strings**, whether it ends early or not. -/
theorem lacks_of_mem_written {find : Finder σ ε} {l : Limits} {ds : List Diagnostic} {st : σ} {c : Char}
    (hc : c < ' ') (hds : ∀ d ∈ ds, d.Lacks find st c) :
    ∀ r ∈ (perform find (diagnosticsScript l ds) st).1.written, r.Lacks c := by
  intro r hr
  rcases mem_written hr with ⟨runs, hi, hr⟩ | ⟨name, draw, st', v, hi, hleads, hv, hr⟩
  · obtain ⟨d, hd, heq | ⟨p, hp, name, hname, heq⟩⟩ := mem_diagnosticsScript hi
    · cases heq
      exact d.lacks_introduction hc (hds d hd).name (hds d hd).comment r hr
    · cases heq
  · obtain ⟨d, hd, heq | ⟨p, hp, name, hname, heq⟩⟩ := mem_diagnosticsScript hi
    · cases heq
    · cases heq
      have hsource : c ∉ name := (hds d hd).source name (List.mem_filterMap.2 ⟨p, hp, hname⟩)
      exact Excerpt.lacks_drawing hc l hsource (d.notMem_message (hds d hd).message p hp)
        ((hds d hd).line p hp name hname st' v hleads hv) r hr

/-- The lines of a text hold no character that the text does not hold. -/
theorem LineTable.notMem_lineAt {S : Text} {c : Char} (h : c ∉ S) (offset : Int) : c ∉ (ofText S).lineAt offset := by
  rw [lineAt_ofText]
  intro hmem
  exact h (List.mem_of_mem_drop ((lineFrom_prefix_drop S _).subset hmem))

/-- With the sources of a catalog, it is enough to look at their texts. -/
theorem Diagnostic.lacks_of_texts {catalog : Catalog} {c : Char} {d : Diagnostic} (hname : c ∉ d.name)
    (hcomment : ∀ t ∈ d.comment, c ∉ t) (hmessage : ∀ r ∈ d.related, c ∉ r.message)
    (hsource : ∀ name ∈ d.sources, c ∉ name ∧ ∀ S ∈ catalog.textOf? name, c ∉ S) :
    d.Lacks Catalog.find catalog c where
  name := hname
  comment := hcomment
  message := hmessage
  source name h := (hsource name h).1
  line r hr name hs catalog' v hleads hv := by
    have hf := Catalog.find_follows catalog.textOf?
    have hanswer := hf.answer catalog' name (hf.of_leads (fun _ => rfl) hleads)
    rw [hv] at hanswer
    unfold Catalog.locate at hanswer
    cases hS : catalog.textOf? name with
    | none =>
      rw [hS] at hanswer
      cases hanswer
    | some S =>
      rw [hS] at hanswer
      cases hanswer
      exact LineTable.notMem_lineAt ((hsource name (List.mem_filterMap.2 ⟨r, hr, hs⟩)).2 S hS) _

end Report

end CodeFrame
