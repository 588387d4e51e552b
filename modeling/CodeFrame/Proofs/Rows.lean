import Mathlib.Data.List.Forall2
import CodeFrame.Palette
import CodeFrame.Proofs.Controls

/-!
# The rows of a report

Without colours, a report is a text of rows, each ended by a newline (`Text.ofRows`). If none of its strings holds a
newline, the newlines of the text are the ends of the rows, and the rows can be told from the text: the headline, an
empty row if the primary place cannot be shown, and for each place that has a source a block of five rows, of which the
first leads to the name of the source and the last is empty (`IsBlock`, `rows_of_diagnostic`). The lines of a source
hold no newline in any case (`LineTable.newline_notMem_lineAt`).
-/

namespace CodeFrame

/-! ## Texts of rows -/

namespace Text

/-- The text of some rows, each ended by a newline. -/
def ofRows (rows : List Text) : Text := rows.flatMap (· ++ ['\n'])

theorem ofRows_cons (row : Text) (rows : List Text) : ofRows (row :: rows) = row ++ '\n' :: ofRows rows := by
  unfold ofRows
  rw [List.flatMap_cons, List.append_assoc, List.singleton_append]

theorem ofRows_append (a b : List Text) : ofRows (a ++ b) = ofRows a ++ ofRows b := List.flatMap_append

/-- If no row holds a newline, the newlines count the rows. -/
theorem count_ofRows : ∀ {rows : List Text}, (∀ row ∈ rows, '\n' ∉ row) → (ofRows rows).count '\n' = rows.length
  | [], _ => rfl
  | row :: rows, h => by
    obtain ⟨hrow, hrows⟩ := List.forall_mem_cons.1 h
    rw [ofRows_cons, List.count_append, List.count_eq_zero.2 hrow, List.count_cons_self, count_ofRows hrows,
      List.length_cons, Nat.zero_add]

/-- The text of rows before an empty one ends in an empty line. -/
theorem suffix_ofRows {rows : List Text} (hlast : rows.getLast? = some []) (hlen : 1 < rows.length) :
    ['\n', '\n'] <:+ ofRows rows := by
  obtain ⟨rows, rfl⟩ := List.getLast?_eq_some_iff.1 hlast
  rcases List.eq_nil_or_concat rows with rfl | ⟨rows, row, rfl⟩
  · exact absurd hlen (by simp)
  · refine ⟨ofRows rows ++ row, ?_⟩
    simp [ofRows]

end Text

open Text

/-- Without colours, of a run only its text is written. -/
theorem paint_plain (runs : List Run) : paint Palette.plain.painter runs = runs.flatMap Run.text :=
  rfl

theorem notMem_paint_plain {c : Char} {runs : List Run} (h : ∀ r ∈ runs, c ∉ r.text) :
    c ∉ paint Palette.plain.painter runs := by
  rw [paint_plain]
  intro hmem
  obtain ⟨r, hr, hc⟩ := List.mem_flatMap.1 hmem
  exact h r hr hc

/-- An excerpt that is drawn whole is the text of its rows, under every painter. -/
theorem Excerpt.paint_framed (painter : Painter) (name message : Text) (p : Position) (source carets : List Run) :
    paint painter (framed name message p source carets) =
      ofRows ((framedRows name message p source carets).map (paint painter)) := by
  have hrow : ∀ row, paint painter (row ++ [lineEnd]) = paint painter row ++ ['\n'] := fun row => by
    rw [paint_append]
    rfl
  unfold ofRows
  rw [framed_eq_flatMap, paint_flatMap, List.flatMap_map]
  simp only [hrow]

/-! ## Blocks -/

/-- Five rows without a newline, the first of which leads to a name, and the last of which is empty. -/
structure IsBlock (name : Text) (rows : List Text) : Prop where
  length : rows.length = 5
  newline : ∀ row ∈ rows, '\n' ∉ row
  first : ∃ row, rows.head? = some row ∧ Mark.arrow ++ name <:+: row
  last : rows.getLast? = some []

/-- The rows of an excerpt are a block, if no row holds a newline. -/
theorem Excerpt.isBlock {name message : Text} {p : Position} {source carets : List Run}
    (hrows : ∀ row ∈ framedRows name message p source carets, ∀ r ∈ row, '\n' ∉ r.text) :
    IsBlock name ((framedRows name message p source carets).map (paint Palette.plain.painter)) where
  length := rfl
  newline := List.forall_mem_map.2 fun row hrow => notMem_paint_plain (hrows row hrow)
  first := by
    refine ⟨_, rfl, ?_⟩
    have hplace : paint Palette.plain.painter (headedRow name message p) =
        spaces (Margin.room p.line) ++ (Mark.arrow ++ name) ++
          (':' :: decimal (p.line + 1) ++ ':' :: decimal (p.column + 1) ++ ": ".toList ++
            if message = [] then [] else message) := by
      rw [paint_plain]
      unfold headedRow headed
      split <;> simp [Run.text, *]
    rw [hplace]
    exact List.infix_append _ _ _
  last := rfl

section Blocks

variable {excerpt : Related → Text} {places : List Related} {blocks : List (List Text)}

/-- The place has a source, and its excerpt is the text of a block that leads to the name of the source. -/
def Related.ShownAs (excerpt : Related → Text) (r : Related) (rows : List Text) : Prop :=
  ∃ name, r.location.source = some name ∧ IsBlock name rows ∧ excerpt r = ofRows rows

/-- If each place that has a source is shown as a block, and nothing is written for the others, then the places are
written as one block after another. -/
theorem exists_blocks : ∀ {places : List Related},
    (∀ r ∈ places, r.location.isNamed → ∃ rows, r.ShownAs excerpt rows) →
    (∀ r ∈ places, ¬ r.location.isNamed → excerpt r = []) →
      ∃ blocks, List.Forall₂ (Related.ShownAs excerpt) (places.filter (·.location.isNamed)) blocks ∧
        places.flatMap excerpt = ofRows blocks.flatten
  | [], _, _ => ⟨[], .nil, rfl⟩
  | r :: places, hshown, hnone => by
    obtain ⟨hr, hplaces⟩ := List.forall_mem_cons.1 hshown
    obtain ⟨hr', hplaces'⟩ := List.forall_mem_cons.1 hnone
    obtain ⟨blocks, hblocks, htext⟩ := exists_blocks hplaces hplaces'
    by_cases hn : r.location.isNamed
    · obtain ⟨rows, hrows⟩ := hr hn
      refine ⟨rows :: blocks, ?_, ?_⟩
      · rw [List.filter_cons, if_pos hn]
        exact .cons hrows hblocks
      · obtain ⟨-, -, -, hexcerpt⟩ := hrows
        rw [List.flatMap_cons, hexcerpt, htext, List.flatten_cons, ofRows_append]
    · refine ⟨blocks, ?_, ?_⟩
      · rw [List.filter_cons, if_neg hn]
        exact hblocks
      · rw [List.flatMap_cons, hr' hn, htext, List.nil_append]

theorem isBlock_of_mem (h : List.Forall₂ (Related.ShownAs excerpt) places blocks) :
    ∀ rows ∈ blocks, ∃ name, IsBlock name rows := by
  induction h with
  | nil => exact fun rows hrows => (by cases hrows)
  | cons hrows _ ih =>
    obtain ⟨name, -, hblock, -⟩ := hrows
    exact List.forall_mem_cons.2 ⟨⟨name, hblock⟩, ih⟩

theorem length_flatten_blocks : ∀ {blocks : List (List Text)}, (∀ rows ∈ blocks, ∃ name, IsBlock name rows) →
    blocks.flatten.length = 5 * blocks.length
  | [], _ => rfl
  | rows :: blocks, h => by
    obtain ⟨⟨name, hrows⟩, hblocks⟩ := List.forall_mem_cons.1 h
    rw [List.flatten_cons, List.length_append, hrows.length, length_flatten_blocks hblocks, List.length_cons]
    omega

theorem newline_notMem_blocks (h : ∀ rows ∈ blocks, ∃ name, IsBlock name rows) : ∀ row ∈ blocks.flatten, '\n' ∉ row := by
  intro row hrow
  obtain ⟨rows, hrows, hrow⟩ := List.mem_flatten.1 hrow
  obtain ⟨name, hblock⟩ := h rows hrows
  exact hblock.newline row hrow

/-- Behind some rows and some blocks there is an empty row, if there is one already behind the rows or if there is a
block. -/
theorem getLast?_blocks {rows : List Text} (h : ∀ rows ∈ blocks, ∃ name, IsBlock name rows)
    (hrows : blocks = [] → rows.getLast? = some []) : (rows ++ blocks.flatten).getLast? = some [] := by
  rcases List.eq_nil_or_concat blocks with hnil | ⟨before, last, rfl⟩
  · rw [hnil, List.flatten_nil, List.append_nil, hrows hnil]
  · obtain ⟨name, hlast⟩ := h last (by simp)
    simp [List.getLast?_append, hlast.last]

end Blocks

/-! ## Diagnostics -/

namespace Diagnostic

theorem paint_headlineRuns (d : Diagnostic) : paint Palette.plain.painter d.headlineRuns = d.headline := by
  rw [paint_plain]
  unfold headlineRuns headline
  cases d.comment <;> simp [Run.text]

theorem newline_notMem_headline {d : Diagnostic} (hname : '\n' ∉ d.name) (hcomment : ∀ t ∈ d.comment, '\n' ∉ t) :
    '\n' ∉ d.headline := by
  unfold headline
  cases h : d.comment with
  | none => exact hname
  | some t =>
    have ht := hcomment t h
    simp [hname, ht]

/-- The places that are shown: the primary one if it has a source, and the related ones that have one. -/
theorem countP_places (d : Diagnostic) :
    d.places.countP (·.location.isNamed) =
      (if d.hasPlace then 1 else 0) + d.related.countP (·.location.isNamed) := by
  unfold places hasPlace
  rw [List.countP_append]
  cases d.primary with
  | none => rfl
  | some s => cases hs : s.isNamed <;> simp [hs]

/-- The rows of a diagnostic, from those of its places. -/
def rows (d : Diagnostic) (blocks : List (List Text)) : List Text :=
  d.headline :: (if d.hasPlace then [] else [[]]) ++ blocks.flatten

section Rows

variable {d : Diagnostic} {blocks : List (List Text)} (hblocks : ∀ rows ∈ blocks, ∃ name, IsBlock name rows)
include hblocks

theorem newline_notMem_rows (hheadline : '\n' ∉ d.headline) : ∀ row ∈ d.rows blocks, '\n' ∉ row := by
  refine List.forall_mem_append.2 ⟨List.forall_mem_cons.2 ⟨hheadline, ?_⟩, newline_notMem_blocks hblocks⟩
  cases d.hasPlace <;> simp

variable (hcount : blocks.length = (if d.hasPlace then 1 else 0) + d.related.countP (·.location.isNamed))
include hcount

theorem length_rows :
    (d.rows blocks).length = 1 + (if d.hasPlace then 5 else 1) + 5 * d.related.countP (·.location.isNamed) := by
  unfold rows
  rw [List.length_append, length_flatten_blocks hblocks, hcount, Nat.mul_add]
  cases d.hasPlace <;> simp [← Nat.add_assoc]

theorem getLast?_rows : (d.rows blocks).getLast? = some [] := by
  refine getLast?_blocks hblocks fun hnil => ?_
  -- without a block, the primary place is not shown either
  have hplace : d.hasPlace = false := by
    cases h : d.hasPlace with
    | false => rfl
    | true =>
      rw [hnil, h, if_pos rfl, List.length_nil] at hcount
      omega
  rw [hplace]
  rfl

theorem suffix_ofRows_rows : ['\n', '\n'] <:+ ofRows (d.rows blocks) := by
  refine suffix_ofRows (getLast?_rows hblocks hcount) ?_
  rw [length_rows hblocks hcount]
  split <;> omega

end Rows

end Diagnostic

section Places

variable {l : Limits} {locate : Text → Except Fault LineView} {r : Related}

/-- What is written for a place, without colours. -/
def Related.plain (l : Limits) (locate : Text → Except Fault LineView) (r : Related) : Text :=
  (perform (Finder.ofFunction locate) (r.script l) ()).1.text Palette.plain.painter

theorem Related.plain_of_unnamed (h : ¬ r.location.isNamed) : r.plain l locate = [] := by
  have hs : r.location.source = none := by simpa [Span.isNamed] using h
  unfold plain
  rw [script_of_unnamed hs]
  rfl

/-- What is written for a place that has a source is a block, if the source is found, the numbers can be written, and no
string holds a newline. -/
theorem Related.exists_shownAs {name : Text} {v : LineView} (hs : r.location.source = some name)
    (hf : locate name = .ok v) (hp : (v.position r.location.start).Fits) (hname : '\n' ∉ name)
    (hmessage : '\n' ∉ r.message) (hline : '\n' ∉ v.lineAt r.location.start) :
    ∃ rows, r.ShownAs (Related.plain l locate) rows := by
  have hrun : (perform (Finder.ofFunction locate) (excerptScript l (some r.location) r.message) ()).1 = _ :=
    outcome_excerptScript_of_fits l r.message hs hf hp
  have hprinted : '\n' ∉ (Excerpt.ofView l v name r.location r.message).line.text :=
    Excerpt.notMem_line (by decide) l hline
  have hrows := Excerpt.notMem_framedRows (by decide) (p := v.position r.location.start) hname hmessage
    (Excerpt.notMem_source hprinted) (Excerpt.notMem_carets (by decide) hprinted)
  refine ⟨_, name, hs, Excerpt.isBlock hrows, ?_⟩
  unfold plain Related.script Outcome.text
  rw [hrun, Excerpt.paint_framed]

/-- A report that does not fail: its introduction, and what is written for its places, one after another. -/
theorem text_script_of_done {d : Diagnostic}
    (hdone : (perform (Finder.ofFunction locate) (d.script l) ()).1.failure = none) :
    (perform (Finder.ofFunction locate) (d.script l) ()).1.text Palette.plain.painter =
      d.headline ++ '\n' :: (if d.hasPlace then [] else ['\n']) ++ d.places.flatMap (Related.plain l locate) := by
  rw [d.script_eq, Diagnostic.scriptUpTo, perform_write] at hdone ⊢
  have hwritten := written_flatMap_of_done (Related.script l) hdone
  unfold Outcome.text Outcome.andThen
  rw [hwritten, paint_append, paint_introduction, d.paint_headlineRuns, paint_flatMap]
  rfl

end Places

/-- **The rows of a diagnostic.** If none of its strings holds a newline and its sources are known, a diagnostic is
reported whole: its headline on a row of its own, an empty row if its primary place cannot be shown, and a block of five
rows for each of its places that has a source, in their order. So the newlines are counted by the places, and the report
ends in an empty row. -/
theorem rows_of_diagnostic (l : Limits) {c : Catalog} {d : Diagnostic} (hname : '\n' ∉ d.name)
    (hcomment : ∀ t ∈ d.comment, '\n' ∉ t) (hmessage : ∀ r ∈ d.related, '\n' ∉ r.message)
    (hsource : ∀ name ∈ d.sources, '\n' ∉ name ∧ name ∈ c.names) :
    let o := (perform Catalog.find (d.script l) c).1
    let text := o.text Palette.plain.painter
    let excerpt := fun r : Related =>
      (perform Catalog.find (excerptScript l (some r.location) r.message) c).1.text Palette.plain.painter
    o.failure = none ∧
      (∃ blocks, List.Forall₂ (Related.ShownAs excerpt) (d.places.filter (·.location.isNamed)) blocks ∧
        text = ofRows (d.headline :: (if d.hasPlace then [] else [[]]) ++ blocks.flatten)) ∧
      '\n' ∉ d.headline ∧
      text.count '\n' = 1 + (if d.hasPlace then 5 else 1) + 5 * d.related.countP (·.location.isNamed) ∧
      ['\n', '\n'] <:+ text := by
  intro o text excerpt
  let locate := Catalog.locate c.textOf?
  have hrun : ∀ script, (perform Catalog.find script c).1 = (perform (Finder.ofFunction locate) script ()).1 :=
    fun script => (perform_of_follows (Catalog.find_follows c.textOf?) script fun _ => rfl).1
  have hexcerpt : excerpt = Related.plain l locate := funext fun r => congrArg (Outcome.text _) (hrun _)
  have hdone : o.failure = none :=
    (Catalog.failure_script_eq_none_iff c l d).2 fun name hmem => (hsource name hmem).2
  have hshown : ∀ r ∈ d.places, r.location.isNamed → ∃ rows, r.ShownAs (Related.plain l locate) rows := by
    intro r hr hnamed
    obtain ⟨name, hs⟩ := Option.isSome_iff_exists.1 hnamed
    obtain ⟨hnewline, hmem⟩ := hsource name (List.mem_filterMap.2 ⟨r, hr, hs⟩)
    obtain ⟨S, hS, hfits⟩ := Catalog.exists_locate_eq_ok hmem
    exact r.exists_shownAs hs hS (hfits _) hnewline (d.notMem_message hmessage r hr)
      (LineTable.newline_notMem_lineAt S _)
  obtain ⟨blocks, hblocks, hplaces⟩ := exists_blocks hshown fun r _ => Related.plain_of_unnamed
  have htext := text_script_of_done ((congrArg Outcome.failure (hrun (d.script l))).symm.trans hdone)
  have hrows : text = ofRows (d.rows blocks) := by
    have ho : text = _ := (congrArg (Outcome.text _) (hrun (d.script l))).trans htext
    rw [ho, hplaces, Diagnostic.rows, ofRows_append, ofRows_cons]
    cases d.hasPlace <;> rfl
  have hblock := isBlock_of_mem hblocks
  have hcount : blocks.length = (if d.hasPlace then 1 else 0) + d.related.countP (·.location.isNamed) := by
    rw [← hblocks.length_eq, ← List.countP_eq_length_filter, d.countP_places]
  have hheadline := Diagnostic.newline_notMem_headline hname hcomment
  refine ⟨hdone, ⟨blocks, ?_, hrows⟩, hheadline, ?_, ?_⟩
  · rw [hexcerpt]
    exact hblocks
  · rw [hrows, count_ofRows (Diagnostic.newline_notMem_rows hblock hheadline), Diagnostic.length_rows hblock hcount]
  · rw [hrows]
    exact Diagnostic.suffix_ofRows_rows hblock hcount

/-- A diagnostic without a primary place, and three related ones, of which the second has no source. -/
theorem rows_of_related_places :
    let c := Catalog.empty.add ['a'] { text := ['\t', 'x', '\r', '\n', '\n', 'y'] }
    let a : Span := { source := some ['a'], start := 1, stop := 4 }
    let b : Span := { source := some ['a'], start := 4, stop := 4 }
    let d : Diagnostic := ⟨['w'], some ['k'], none, [⟨['m'], a⟩, ⟨[], { a with source := none }⟩, ⟨[], b⟩], .warning⟩
    let o := (perform Catalog.find (d.script .standard) c).1
    let text := o.text Palette.plain.painter
    '\n' ∉ d.name ∧ (∀ t ∈ d.comment, '\n' ∉ t) ∧ (∀ r ∈ d.related, '\n' ∉ r.message) ∧
      (∀ name ∈ d.sources, '\n' ∉ name ∧ name ∈ c.names) ∧ o.failure = none ∧
      (∃ first second, IsBlock ['a'] first ∧ IsBlock ['a'] second ∧
        text = ofRows (['w', ':', ' ', 'k'] :: [] :: (first ++ second))) ∧
      text.count '\n' = 12 ∧ ['\n', '\n'] <:+ text := by
  intro c a b d o text
  have hname : '\n' ∉ d.name := by decide
  have hcomment : ∀ t ∈ d.comment, '\n' ∉ t := by decide
  have hmessage : ∀ r ∈ d.related, '\n' ∉ r.message := by decide
  have hsource : ∀ name ∈ d.sources, '\n' ∉ name ∧ name ∈ c.names := by decide
  obtain ⟨hdone, ⟨blocks, hblocks, htext⟩, -, hcount, hend⟩ :=
    rows_of_diagnostic .standard hname hcomment hmessage hsource
  refine ⟨hname, hcomment, hmessage, hsource, hdone, ?_, hcount, hend⟩
  match blocks, hblocks with
  | [first, second], .cons ⟨_, hs, hfirst, _⟩ (.cons ⟨_, hs', hsecond, _⟩ .nil) =>
    cases hs
    cases hs'
    refine ⟨first, second, hfirst, hsecond, htext.trans ?_⟩
    simp only [List.flatten_cons, List.flatten_nil, List.append_nil]
    rfl

end CodeFrame
