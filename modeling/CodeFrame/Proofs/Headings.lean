import CodeFrame.Palette
import CodeFrame.Proofs.Catalog
import CodeFrame.Proofs.Frame
import CodeFrame.Proofs.Positions
import CodeFrame.Report

/-!
# Headings

A heading can be read back. Its arrow stands behind the room for the line number, and behind the name the line and the
column are told apart by colons, which no numeral holds (`Text.append_cons_inj`, `Text.notMem_decimal`). So of one name,
different positions have different headings (`Excerpt.paint_headed_inj`), whatever characters the name holds; and
since different places of a text have different positions, a heading tells the place itself.

The excerpt of a place begins with its heading, and the two ask for the same source in the same way
(`heading_begins_excerpt`). Of a source in a catalog, both are written whole, or it is missing for both
(`failure_excerptScript`).
-/

namespace CodeFrame

open Text

namespace Text

/-- A text is cut in one way only at the first of its characters of a kind. -/
theorem append_cons_inj {c : Char} : ∀ {a b s t : Text}, c ∉ a → c ∉ b →
    a ++ c :: s = b ++ c :: t → a = b ∧ s = t
  | [], [], _, _, _, _, h => ⟨rfl, (List.cons.inj h).2⟩
  | [], d :: _, _, _, _, hb, h => by
    obtain ⟨rfl, -⟩ := List.cons.inj h
    exact absurd List.mem_cons_self hb
  | d :: _, [], _, _, ha, _, h => by
    obtain ⟨rfl, -⟩ := List.cons.inj h
    exact absurd List.mem_cons_self ha
  | d :: a, e :: b, _, _, ha, hb, h => by
    obtain ⟨rfl, hrest⟩ := List.cons.inj h
    obtain ⟨rfl, hst⟩ := append_cons_inj (List.not_mem_of_not_mem_cons ha) (List.not_mem_of_not_mem_cons hb) hrest
    exact ⟨rfl, hst⟩

end Text

namespace Excerpt

/-! ## Reading a heading back -/

/-- A heading, taken apart where it is read back: at the arrow and at the colons behind the name. -/
theorem paint_headed (name : Text) (p : Position) :
    paint Palette.plain.painter (headed name p) =
      spaces (Margin.room p.line) ++ '-' :: ("-> ".toList ++ (name ++ ':' ::
        (decimal (p.line + 1) ++ ':' :: (decimal (p.column + 1) ++ ':' :: [' '])))) := by
  simp [headed, Run.paint, Palette.painter, Mark.arrow]

/-- Of one name, different positions have different headings. -/
theorem paint_headed_inj {name : Text} {p q : Position} :
    paint Palette.plain.painter (headed name p) = paint Palette.plain.painter (headed name q) ↔ p = q := by
  refine ⟨fun h => ?_, fun h => by rw [h]⟩
  have hminus : ∀ n, '-' ∉ spaces n := notMem_spaces (by decide)
  have hcolon : ∀ n, ':' ∉ decimal n := notMem_decimal (by decide) (by decide)
  rw [paint_headed, paint_headed] at h
  obtain ⟨-, h⟩ := append_cons_inj (hminus _) (hminus _) h
  have hnumbers := (List.cons.inj (List.append_cancel_left (List.append_cancel_left h))).2
  obtain ⟨hline, h⟩ := append_cons_inj (hcolon _) (hcolon _) hnumbers
  obtain ⟨hcolumn, -⟩ := append_cons_inj (hcolon _) (hcolon _) h
  have hline := decimal_inj.1 hline
  have hcolumn := decimal_inj.1 hcolumn
  obtain ⟨line, column⟩ := p
  obtain ⟨line', column'⟩ := q
  simp only [Position.mk.injEq]
  dsimp only at hline hcolumn
  omega

/-- The rows above the source row begin with the heading. -/
theorem headed_prefix_begun (name message : Text) (p : Position) : headed name p <+: begun name message p := by
  unfold begun
  simp only [List.append_assoc]
  exact List.prefix_append _ _

/-- As much of an excerpt is drawn as of its heading, or more; and if the heading is whole, only a number that is too
long can end the excerpt. -/
theorem heading_begins_drawing (e : Excerpt) :
    (Drawing.ofRuns (heading e.name e.start)).runs <+: e.drawing.runs ∧
      (e.drawing.fault = (Drawing.ofRuns (heading e.name e.start)).fault ∨
        (Drawing.ofRuns (heading e.name e.start)).fault = none ∧ e.drawing.fault = some .numeralTooLong) := by
  unfold drawing
  by_cases hheading : e.start.HeadingFits
  · rw [heading_of_fits e.name hheading]
    by_cases hmargin : Fits e.start.line
    · rw [ofRows_of_fits _ _ _ _ ⟨hmargin, hheading⟩]
      exact ⟨(headed_prefix_begun _ _ _).trans (begun_prefix_framed _ _ _ _ _), Or.inl rfl⟩
    · rw [ofRows_of_headingFits _ _ _ _ hheading hmargin]
      exact ⟨headed_prefix_begun _ _ _, Or.inr ⟨rfl, rfl⟩⟩
  · rw [heading_of_not_fits e.name hheading, ofRows_of_not_headingFits _ _ _ _ hheading]
    exact ⟨List.prefix_rfl, Or.inl rfl⟩

end Excerpt

theorem paint_isPrefix (painter : Painter) {runs runs' : List Run} (h : runs <+: runs') :
    paint painter runs <+: paint painter runs' := by
  obtain ⟨rest, rfl⟩ := h
  rw [paint_append]
  exact List.prefix_append _ _

/-! ## A heading and its excerpt -/

section Place

variable {σ ε : Type} {find : Finder σ ε} {st : σ}

/-- A place without a source asks for nothing and writes nothing, whatever was to be drawn. -/
theorem perform_quoteScript_of_unnamed {place : Option Span} (h : place.bind Span.source = none)
    (draw : Text → Span → LineView → Drawing) : perform find (quoteScript place draw) st = (.nothing, st) := by
  rw [quoteScript_of_unnamed h]
  rfl

section Named

variable {s : Span} {name : Text} (hs : s.source = some name)
include hs

theorem perform_quoteScript_of_missing {e : ε} {st' : σ} (hf : find name st = (.error e, st'))
    (draw : Text → Span → LineView → Drawing) :
    perform find (quoteScript (some s) draw) st = (⟨[], [name], some (.missing e)⟩, st') := by
  rw [quoteScript_of_named hs, perform_quote_of_missing hf]

theorem perform_quoteScript_of_found {v : LineView} {st' : σ} (hf : find name st = (.ok v, st'))
    (draw : Text → Span → LineView → Drawing) :
    perform find (quoteScript (some s) draw) st = (.drawn name (draw name s v), st') := by
  rw [quoteScript_of_named hs, perform_quote_of_found hf]

end Named

/-- **An excerpt begins with its heading**, however it is painted, and fares like it: both look up the same source, fail
alike if it is missing, and leave the finder in the same state. If the heading is written, only a number that is too long
can end the excerpt. -/
theorem heading_begins_excerpt (find : Finder σ ε) (st : σ) (l : Limits) (place : Option Span) (message : Text)
    (painter : Painter) :
    let h := perform find (headingScript place) st
    let e := perform find (excerptScript l place message) st
    h.1.text painter <+: e.1.text painter ∧ e.1.lookups = h.1.lookups ∧
      (e.1.failure = h.1.failure ∨ h.1.failure = none ∧ e.1.failure = some (.fault .numeralTooLong)) ∧ e.2 = h.2 := by
  intro h e
  cases hplace : place.bind Span.source with
  | none =>
    have hh : h = (.nothing, st) := perform_quoteScript_of_unnamed hplace _
    have he : e = (.nothing, st) := perform_quoteScript_of_unnamed hplace _
    rw [hh, he]
    exact ⟨List.prefix_rfl, rfl, Or.inl rfl, rfl⟩
  | some name =>
    obtain ⟨s, rfl, hs⟩ := Option.bind_eq_some_iff.1 hplace
    rcases hf : find name st with ⟨e' | v, st'⟩
    · have hh : h = (⟨[], [name], some (.missing e')⟩, st') := perform_quoteScript_of_missing hs hf _
      have he : e = (⟨[], [name], some (.missing e')⟩, st') := perform_quoteScript_of_missing hs hf _
      rw [hh, he]
      exact ⟨List.prefix_rfl, rfl, Or.inl rfl, rfl⟩
    · have hh : h = (.drawn name (.ofRuns (Excerpt.heading name (v.position s.start))), st') :=
        perform_quoteScript_of_found hs hf _
      have he : e = (.drawn name (Excerpt.ofView l v name s message).drawing, st') :=
        perform_quoteScript_of_found hs hf _
      obtain ⟨hruns, hfault⟩ := Excerpt.heading_begins_drawing (Excerpt.ofView l v name s message)
      rw [hh, he, Outcome.failure_drawn, Outcome.failure_drawn]
      refine ⟨paint_isPrefix painter hruns, rfl, ?_, rfl⟩
      rcases hfault with hsame | ⟨hnone, hsome⟩
      · exact Or.inl (congrArg (Option.map Failure.fault) hsame)
      · exact Or.inr ⟨congrArg (Option.map Failure.fault) hnone, congrArg (Option.map Failure.fault) hsome⟩

end Place

/-! ## What a heading tells -/

/-- Different places of a text have different positions. -/
theorem LineTable.position_inj {S : Text} {p q : Nat} (hp : p ≤ S.length) (hq : q ≤ S.length) :
    (ofText S).position p = (ofText S).position q ↔ p = q := by
  refine ⟨fun h => ?_, fun h => by rw [h]⟩
  have hplace : ∀ {o : Nat}, o ≤ S.length → (ofText S).placeOf ((ofText S).position o) = o := fun ho =>
    placeOf_position ⟨Int.natCast_nonneg _, Int.ofNat_le.2 ho⟩
  have hpq := (hplace hp).symm.trans ((congrArg (ofText S).placeOf h).trans (hplace hq))
  exact Int.ofNat_inj.1 hpq

/-- The heading of a place whose source is in the catalog is written. -/
theorem outcome_headingScript {c : Catalog} {name S : Text} {s : Span} (hc : c.textOf? name = some S)
    (hs : s.source = some name) :
    (perform Catalog.find (headingScript (some s)) c).1 =
      ⟨Excerpt.headed name ((LineTable.ofText S).position s.start), [name], none⟩ := by
  have hp := LineTable.position_fits (Catalog.fits_of_textOf? hc) s.start
  have ho := congrArg Prod.fst (perform_quoteScript_of_found hs (Catalog.find_eq_ok hc)
    fun name s v => .ofRuns (Excerpt.heading name (v.position s.start)))
  exact ho.trans (congrArg (Outcome.drawn name ∘ Drawing.ofRuns) (Excerpt.heading_of_fits name hp.heading))

/-- With a catalog, an excerpt fails exactly as its heading does. -/
theorem failure_excerptScript (c : Catalog) (l : Limits) (place : Option Span) (message : Text) :
    (perform Catalog.find (excerptScript l place message) c).1.failure =
      (perform Catalog.find (headingScript place) c).1.failure := by
  cases hplace : place.bind Span.source with
  | none =>
    have he : perform Catalog.find (excerptScript l place message) c = _ := perform_quoteScript_of_unnamed hplace _
    have hh : perform Catalog.find (headingScript place) c = _ := perform_quoteScript_of_unnamed hplace _
    rw [he, hh]
  | some name =>
    obtain ⟨s, rfl, hs⟩ := Option.bind_eq_some_iff.1 hplace
    cases hc : c.textOf? name with
    | none =>
      have hf := Catalog.find_eq_error hc
      have he : perform Catalog.find (excerptScript l (some s) message) c = _ := perform_quoteScript_of_missing hs hf _
      have hh : perform Catalog.find (headingScript (some s)) c = _ := perform_quoteScript_of_missing hs hf _
      rw [he, hh]
    | some S =>
      have he : perform Catalog.find (excerptScript l (some s) message) c = _ :=
        perform_quoteScript_of_found hs (Catalog.find_eq_ok hc) _
      have hfault : (Excerpt.ofView l (LineTable.ofText S).view name s message).drawing.fault = none :=
        (Excerpt.fault_ofRows_eq_none_iff _ _ _ _).2 (LineTable.position_fits (Catalog.fits_of_textOf? hc) s.start)
      rw [he, outcome_headingScript hc hs, Outcome.failure_drawn, hfault]
      rfl

/-- **A heading tells where its place starts.** Of two places of one source that start in its text, the plain headings are
written, and are equal exactly if the places start at the same offset. Every excerpt begins with the heading of its
place, and fails as it does, but for a number that is too long; with a catalog, it fails exactly as it does. Neither
writes anything for a place without a source, and both report a source that is not in the catalog. -/
theorem heading_tells_start {c c' : Catalog} {name S : Text} {s s' : Span} (hc : c.textOf? name = some S)
    (hc' : c'.textOf? name = some S) (hs : s.source = some name) (hs' : s'.source = some name)
    (hstart : s.start ≤ S.length) (hstart' : s'.start ≤ S.length) :
    (let h := (perform Catalog.find (headingScript (some s)) c).1
      let h' := (perform Catalog.find (headingScript (some s')) c').1
      h.failure = none ∧ h'.failure = none ∧
        (h.text Palette.plain.painter = h'.text Palette.plain.painter ↔ s.start = s'.start)) ∧
    (∀ {σ ε : Type} (find : Finder σ ε) (st : σ) (l : Limits) (place : Option Span) (message : Text)
        (painter : Painter),
      let h := perform find (headingScript place) st
      let e := perform find (excerptScript l place message) st
      (h.1.text painter <+: e.1.text painter ∧ e.1.lookups = h.1.lookups ∧
        (e.1.failure = h.1.failure ∨ h.1.failure = none ∧ e.1.failure = some (.fault .numeralTooLong)) ∧ e.2 = h.2) ∧
        (place.bind Span.source = none → h = (.nothing, st) ∧ e = (.nothing, st))) ∧
    ∀ (c : Catalog) (l : Limits) (place : Option Span) (message : Text),
      let h := perform Catalog.find (headingScript place) c
      let e := perform Catalog.find (excerptScript l place message) c
      e.1.failure = h.1.failure ∧
        ∀ name, place.bind Span.source = some name → c.textOf? name = none →
          h = (⟨[], [name], some (.missing (.unknownSource name))⟩, c) ∧
            e = (⟨[], [name], some (.missing (.unknownSource name))⟩, c) := by
  refine ⟨?_, ?_, ?_⟩
  · intro h h'
    have hh : h = ⟨Excerpt.headed name ((LineTable.ofText S).position s.start), [name], none⟩ :=
      outcome_headingScript hc hs
    have hh' : h' = ⟨Excerpt.headed name ((LineTable.ofText S).position s'.start), [name], none⟩ :=
      outcome_headingScript hc' hs'
    rw [hh, hh']
    exact ⟨rfl, rfl, Excerpt.paint_headed_inj.trans (LineTable.position_inj hstart hstart')⟩
  · intro σ ε find st l place message painter h e
    exact ⟨heading_begins_excerpt find st l place message painter, fun hplace =>
      ⟨perform_quoteScript_of_unnamed hplace _, perform_quoteScript_of_unnamed hplace _⟩⟩
  · intro c l place message h e
    refine ⟨failure_excerptScript c l place message, fun name hplace hunknown => ?_⟩
    obtain ⟨s, rfl, hs⟩ := Option.bind_eq_some_iff.1 hplace
    have hf := Catalog.find_eq_error hunknown
    exact ⟨perform_quoteScript_of_missing hs hf _, perform_quoteScript_of_missing hs hf _⟩

/-- Two places that touch at a newline, in a source whose name looks like the end of a heading. -/
theorem heading_tells_start_at_newline :
    let name : Text := ":1:1: ".toList
    let S : Text := ['x', '\n', 'y']
    let c := Catalog.empty.add name { text := S }
    let s : Span := { source := some name, start := 1, stop := 7 }
    let s' : Span := { source := some name, start := 2, stop := 2 }
    let h := (perform Catalog.find (headingScript (some s)) c).1
    let h' := (perform Catalog.find (headingScript (some s')) (c.fetch name).2).1
    c.textOf? name = some S ∧ (c.fetch name).2.textOf? name = some S ∧ s.start ≤ S.length ∧ s'.start ≤ S.length ∧
      h.text Palette.plain.painter ≠ h'.text Palette.plain.painter ∧
      h.text Ansi.painter <+:
        (perform Catalog.find (excerptScript .standard (some s) ['m']) c).1.text Ansi.painter := by
  intro name S c s s' h h'
  have hc : c.textOf? name = some S := rfl
  have hc' : (c.fetch name).2.textOf? name = some S := by rw [Catalog.textOf?_fetch, hc]
  have hs : s.source = some name := rfl
  have hs' : s'.source = some name := rfl
  have hstart : s.start ≤ S.length := by decide
  have hstart' : s'.start ≤ S.length := by decide
  obtain ⟨⟨-, -, heq⟩, hbegins, -⟩ := heading_tells_start hc hc' hs hs' hstart hstart'
  refine ⟨hc, hc', hstart, hstart', fun h => ?_, (hbegins Catalog.find c .standard (some s) ['m'] Ansi.painter).1.1⟩
  exact absurd (heq.1 h) (by decide)

end CodeFrame
