import CodeFrame.Proofs.Markers

/-!
# Reports in colour

A report is written in runs and painted afterwards, so its palette has no influence on what is looked up or found. If
no string that goes into it holds an escape character, then deleting the markers from a coloured report gives the plain
one (`unmarked_diagnostics`), and no colour leaks: its stretches of colour do not touch each other, they lie on one line
each unless a string brings in a newline, and there are as many as the parts of the report ask for
(`stretchCount`, `stretches_of_diagnostics`). All of it also holds of a report that ends early.
-/

namespace CodeFrame

/-! ## How many runs have a role -/

/-- Whether a run has a role. -/
def Run.isStyled : Run → Bool
  | .bare _ => false
  | .styled _ _ => true

theorem Ansi.length_filterMap_stretch? (runs : List Run) :
    (runs.filterMap stretch?).length = runs.countP Run.isStyled := by
  rw [List.length_filterMap_eq_countP]
  congr 1
  funext r
  cases r <;> rfl

/-- Each stretch comes from a run that has its text and the role of its colour. -/
theorem Ansi.mem_filterMap_stretch? {runs : List Run} {s : Stretch} (h : s ∈ runs.filterMap stretch?) :
    ∃ role, s.parameters = parameters role ∧ .styled role s.text ∈ runs := by
  obtain ⟨r, hr, hrs⟩ := List.mem_filterMap.1 h
  cases r with
  | bare t => cases hrs
  | styled role t =>
    cases hrs
    exact ⟨role, rfl, hr⟩

/-- The stretches of colour in a report that came to some diagnostics and showed some of their places: one for each
name, one for each comment, six for each place that has a source, and one for each message beside such a place. -/
def stretchCount (reached : List Diagnostic) (passed : List Related) : Nat :=
  reached.length + reached.countP (·.comment.isSome) + 6 * passed.countP (·.location.isNamed) +
    passed.countP fun r => r.location.isNamed && r.message ≠ []

theorem stretchCount_append (ds ds' : List Diagnostic) (rs rs' : List Related) :
    stretchCount (ds ++ ds') (rs ++ rs') = stretchCount ds rs + stretchCount ds' rs' := by
  unfold stretchCount
  simp only [List.length_append, List.countP_append]
  omega

section Excerpt

open Excerpt

theorem countP_message (message : Text) :
    (if message = [] then [] else [Run.styled .message message]).countP Run.isStyled = if message = [] then 0 else 1 := by
  split <;> rfl

/-- The two rows above the source row have two runs with a role, and one more if there is a message. -/
theorem Excerpt.countP_begun (name message : Text) (p : Position) :
    (begun name message p).countP Run.isStyled = 2 + if message = [] then 0 else 1 := by
  unfold begun headed
  simp only [List.countP_append, List.countP_cons, List.countP_nil, Run.isStyled, countP_message]
  simp only [Bool.false_eq_true, if_false, if_true]
  omega

theorem Excerpt.begun_ne_nil (name message : Text) (p : Position) : begun name message p ≠ [] := by
  simp [begun, headed]

/-- A whole excerpt has six runs with a role, and one more if there is a message, in both of its layouts. -/
theorem Excerpt.countP_framed (l : Limits) (v : LineView) (name : Text) (s : Span) (message : Text) :
    (framed name message (v.position s.start) (ofView l v name s message).source
      (ofView l v name s message).carets).countP Run.isStyled = 6 + if message = [] then 0 else 1 := by
  have hframed : ∀ source carets, (framed name message (v.position s.start) source carets).countP Run.isStyled =
      4 + (source.countP Run.isStyled + carets.countP Run.isStyled) + if message = [] then 0 else 1 := by
    intro source carets
    unfold framed
    simp only [List.countP_append, List.countP_cons, List.countP_nil, Run.isStyled, countP_begun]
    simp only [Bool.false_eq_true, if_false, if_true]
    omega
  rw [hframed]
  by_cases hsame : (v.position s.start).line = (v.position s.stop).line
  · rw [source_of_same_line hsame, carets_of_same_line (within_line l v name s message) hsame]
    rfl
  · rw [source_of_other_line hsame, carets_of_other_line hsame]
    rfl

end Excerpt

theorem Diagnostic.countP_introduction (d : Diagnostic) :
    d.introduction.countP Run.isStyled = stretchCount [d] [] := by
  unfold introduction headlineRuns stretchCount
  cases hcomment : d.comment <;> cases d.hasPlace <;>
    simp [hcomment, List.countP_cons, Run.isStyled]

section Count

variable {σ ε : Type} {find : Finder σ ε} {l : Limits}

theorem Related.countP_script {r : Related} {st : σ} (h : (perform find (r.script l) st).1.failure = none) :
    (perform find (r.script l) st).1.written.countP Run.isStyled = stretchCount [] [r] := by
  cases hs : r.location.source with
  | none =>
    rw [script_of_unnamed hs]
    simp [stretchCount, Span.isNamed, hs, perform, Outcome.nothing]
  | some name =>
    cases hf : (find name st).1 with
    | error e =>
      rw [perform_of_missing hs hf] at h
      cases h
    | ok v =>
      have ho : (perform find (r.script l) st).1 = _ :=
        outcome_excerptScript_of_fits l r.message hs hf ((done_iff_of_found hs hf).1 h)
      rw [ho, Excerpt.countP_framed]
      by_cases hm : r.message = [] <;> simp [stretchCount, Span.isNamed, hs, hm]

/-- What is written of a place that fails is nothing, or the two rows above its source row. -/
theorem Related.Fails.countP_written {r : Related} {name : Text} {answer : Except ε LineView} {e : Failure ε}
    {written : List Run} (h : r.Fails name answer e written) :
    written.countP Run.isStyled = if written = [] then 0 else 2 + if r.message = [] then 0 else 1 := by
  cases h with
  | missing h => rfl
  | tooLong h hp =>
    split
    · rw [if_neg (Excerpt.begun_ne_nil _ _ _), Excerpt.countP_begun]
    · rfl

theorem Diagnostic.countP_scriptUpTo {d : Diagnostic} {shown : List Related} {st : σ}
    (h : (perform find (d.scriptUpTo l shown) st).1.failure = none) :
    (perform find (d.scriptUpTo l shown) st).1.written.countP Run.isStyled = stretchCount [d] shown := by
  have hshown := countP_written_flatMap (w := stretchCount []) rfl (fun r rs => stretchCount_append [] [] [r] rs)
    (fun _ _ hr => Related.countP_script hr) h
  unfold scriptUpTo
  rw [perform_write]
  refine List.countP_append.trans ?_
  rw [d.countP_introduction, hshown, ← stretchCount_append]
  rfl

theorem countP_diagnosticsScript {ds : List Diagnostic} {st : σ}
    (h : (perform find (diagnosticsScript l ds) st).1.failure = none) :
    (perform find (diagnosticsScript l ds) st).1.written.countP Run.isStyled =
      stretchCount ds (ds.flatMap Diagnostic.places) := by
  refine countP_written_flatMap (w := fun ds => stretchCount ds (ds.flatMap Diagnostic.places)) rfl ?_ ?_ h
  · intro d ds
    rw [List.flatMap_cons, List.flatMap_singleton, ← stretchCount_append]
    rfl
  · intro d s hd
    rw [d.script_eq] at hd ⊢
    rw [d.countP_scriptUpTo hd, List.flatMap_singleton]

theorem countP_reportUpTo {earlier : List Diagnostic} {d : Diagnostic} {shown : List Related} {st : σ}
    (h : (perform find (reportUpTo l earlier d shown) st).1.failure = none) :
    (perform find (reportUpTo l earlier d shown) st).1.written.countP Run.isStyled =
      stretchCount (earlier ++ [d]) (earlier.flatMap Diagnostic.places ++ shown) := by
  obtain ⟨hearlier, hd⟩ := failure_append_eq_none_iff.1 h
  unfold reportUpTo
  rw [perform_append_of_done hearlier, stretchCount_append, ← countP_diagnosticsScript hearlier,
    ← d.countP_scriptUpTo hd]
  exact List.countP_append

end Count

/-! ## Reports -/

section Report

variable {σ ε : Type} {find : Finder σ ε} {st : σ} {ds : List Diagnostic}

/-- What a report writes holds no escape character that is in none of its strings. -/
theorem escape_notMem_written (l : Limits) (hds : ∀ d ∈ ds, d.Lacks find st Ansi.escape) :
    ∀ r ∈ (perform find (diagnosticsScript l ds) st).1.written, Ansi.escape ∉ r.text := by
  intro r hr
  rcases lacks_of_mem_written (by decide) hds r hr with rfl | h
  · decide
  · exact h

/-- **Colour never changes the text.** What a caller sees of a report, complete or not, is the text in the stream, the
names that were looked up, and the failure. If no string that goes into the report holds an escape character, then the
coloured and the plain palette differ in the markers only. -/
theorem unmarked_diagnostics (l : Limits) (hds : ∀ d ∈ ds, d.Lacks find st Ansi.escape) :
    let seen := fun palette : Palette =>
      let o := (perform find (diagnosticsScript l ds) st).1
      (o.text palette.painter, o.lookups, o.failure)
    ((seen .ansi).map Ansi.unmarked id) = seen .plain := by
  intro seen
  exact congrArg (·, (seen .plain).2) (Ansi.unmarked_paint (escape_notMem_written l hds))

/-- A coloured report that ends in front of a place whose source is missing. -/
theorem unmarked_report_of_missing_source :
    let v : LineView := ⟨fun _ => ['\t', 'x', '\r', '\n'], fun offset => ⟨-offset, 9 - offset⟩⟩
    let find : Finder Unit Fault := Finder.ofFunction fun name => if name = ['a'] then .ok v else .error .notAKey
    let a : Span := { source := some ['a'], start := 1, stop := 5 }
    let b : Span := { source := some ['b'], start := 2, stop := 6 }
    let ds : List Diagnostic := [⟨['w'], some [], some a, [⟨['m'], a⟩, ⟨[], b⟩], .warning⟩]
    let seen := fun palette : Palette =>
      let o := (perform find (diagnosticsScript .standard ds) ()).1
      (o.text palette.painter, o.lookups, o.failure)
    (∀ d ∈ ds, d.Lacks find () Ansi.escape) ∧ (seen .ansi).map Ansi.unmarked id = seen .plain ∧
      (seen .ansi).2 = ([['a'], ['a'], ['b']], some (.missing .notAKey)) := by
  intro v find a b ds seen
  have hlines : ∀ name s v', (find name s).1 = .ok v' → ∀ offset, Ansi.escape ∉ v'.lineAt offset := by
    intro name s v' hv offset
    simp only [find, Finder.ofFunction] at hv
    split at hv
    · cases hv
      exact (by decide : Ansi.escape ∉ ['\t', 'x', '\r', '\n'])
    · cases hv
  have hds : ∀ d ∈ ds, d.Lacks find () Ansi.escape := List.forall_mem_singleton.2
    { name := by decide
      comment := by decide
      message := by decide
      source := by decide
      line := fun r _ name _ s v' _ hv => hlines name s v' hv _ }
  exact ⟨hds, unmarked_diagnostics .standard hds, by decide⟩

/-- **No colour leaks.** If no string that goes into a report holds an escape character, its markers turn the colour of
a role on and off in turn, also if it ends early; if no string holds a newline either, each stretch of colour lies on
one line. There is one stretch for each headline and for each comment, and there are six for each excerpt and one more
for its message, of all the diagnostics or, if a place fails, of the headlines and the excerpts before it. Of a place
that fails, nothing is written, or else the two rows above its source row with two stretches, and one more for its
message. -/
theorem stretches_of_diagnostics (l : Limits) (hds : ∀ d ∈ ds, d.Lacks find st Ansi.escape) :
    let o := (perform find (diagnosticsScript l ds) st).1
    ∃ stretches, Ansi.stretches none (Ansi.read (o.text Palette.ansi.painter)) = some stretches ∧
      (∀ s ∈ stretches, ∃ role, s.parameters = Ansi.parameters role) ∧
      ((∀ d ∈ ds, d.Lacks find st '\n') → ∀ s ∈ stretches, '\n' ∉ s.text) ∧
      (o.failure = none → stretches.length = stretchCount ds (ds.flatMap Diagnostic.places)) ∧
      ∀ e, o.failure = some e → ∃ earlier d later shown p rest name written,
        ds = earlier ++ d :: later ∧ d.places = shown ++ p :: rest ∧ p.location.source = some name ∧
        o.lookups = earlier.flatMap Diagnostic.sources ++ sourcesOf shown ++ [name] ∧
        p.Fails name (find name (perform find (reportUpTo l earlier d shown) st).2).1 e written ∧
        stretches.length = stretchCount (earlier ++ [d]) (earlier.flatMap Diagnostic.places ++ shown) +
          if written = [] then 0 else 2 + if p.message = [] then 0 else 1 := by
  intro o
  refine ⟨o.written.filterMap Ansi.stretch?, Ansi.stretches_paint (escape_notMem_written l hds), ?_, ?_, ?_, ?_⟩
  · intro s hs
    obtain ⟨role, hrole, -⟩ := Ansi.mem_filterMap_stretch? hs
    exact ⟨role, hrole⟩
  · intro hnewline s hs
    obtain ⟨role, -, hmem⟩ := Ansi.mem_filterMap_stretch? hs
    exact (lacks_of_mem_written (by decide) hnewline _ hmem).notMem_styled
  · intro h
    rw [Ansi.length_filterMap_stretch?]
    exact countP_diagnosticsScript h
  · intro e he
    rcases perform_diagnosticsScript_cases find l ds st with
      hnone | ⟨earlier, d, later, shown, p, rest, name, e', written, hplace, hplaces, hname, hdone, hfails, ho⟩
    · rw [show o.failure = none from hnone] at he
      cases he
    · have hfailure : o.failure = some e' := congrArg Outcome.failure ho
      rw [hfailure] at he
      cases he
      refine ⟨earlier, d, later, shown, p, rest, name, written, hplace, hplaces, hname, ?_, hfails, ?_⟩
      · have hlookups : o.lookups = _ := congrArg Outcome.lookups ho
        rw [hlookups, Outcome.andThen, lookups_of_done hdone, names_reportUpTo]
      · have hwritten : o.written = _ ++ written := congrArg Outcome.written ho
        rw [Ansi.length_filterMap_stretch?, hwritten, List.countP_append, countP_reportUpTo hdone,
          hfails.countP_written]

/-- Two excerpts of an empty span, one of them with a message, below a headline with an empty comment. -/
theorem stretches_of_empty_spans :
    let c := Catalog.empty.add ['a'] { text := ['\t', 'x', '\r', '\n', 'y'] }
    let a : Span := { source := some ['a'], start := 9, stop := 9 }
    let ds : List Diagnostic := [⟨['w'], some [], some a, [⟨['m'], a⟩], .warning⟩]
    let o := (perform Catalog.find (diagnosticsScript .standard ds) c).1
    (∀ d ∈ ds, d.Lacks Catalog.find c Ansi.escape) ∧
      ∃ stretches, Ansi.stretches none (Ansi.read (o.text Palette.ansi.painter)) = some stretches ∧
        stretches.length = 15 := by
  intro c a ds o
  have hds : ∀ d ∈ ds, d.Lacks Catalog.find c Ansi.escape := by
    intro d hd
    rw [List.mem_singleton.1 hd]
    exact Diagnostic.lacks_of_texts (by decide) (by decide) (by decide) (by decide)
  have hdone : o.failure = none := (Catalog.failure_script_eq_none_iff c .standard _).2 (by decide)
  obtain ⟨stretches, hread, -, -, hcount, -⟩ := stretches_of_diagnostics .standard hds
  exact ⟨hds, stretches, hread, hcount hdone⟩

/-- Every source is found, and no excerpt is complete, but two stretches come from one that was begun. -/
theorem stretches_of_begun_excerpt :
    let v : LineView := ⟨fun _ => ['x'], fun _ => ⟨-(Text.tooLong : Int), 0⟩⟩
    let find : Finder Unit Fault := Finder.ofFunction fun _ => .ok v
    let a : Related := ⟨[], { source := some ['a'], start := 6, stop := 7 }⟩
    let d : Diagnostic := ⟨['w'], none, none, [a], .warning⟩
    let o := (perform find (diagnosticsScript .standard [d]) ()).1
    (∀ d' ∈ [d], d'.Lacks find () Ansi.escape) ∧ o.failure = some (.fault .numeralTooLong) ∧
      ∃ stretches, Ansi.stretches none (Ansi.read (o.text Palette.ansi.painter)) = some stretches ∧
        stretches.length = 3 ∧ stretchCount [d] [] = 1 := by
  intro v find a d o
  have hd : d.Lacks find () Ansi.escape :=
    { name := by decide
      comment := by decide
      message := by decide
      source := by decide
      line := fun r hr name hs st v' hleads hv => by
        cases hv
        exact (by decide : Ansi.escape ∉ ['x']) }
  have hds : ∀ d' ∈ [d], d'.Lacks find () Ansi.escape := List.forall_mem_singleton.2 hd
  have hplace : (perform find (a.script .standard) ()).1 = _ :=
    Related.perform_of_begun (v := v) rfl rfl rfl (by decide : Text.Fits (0 + 1))
  have ho : o = (⟨d.introduction, [], none⟩ : Outcome Fault).andThen (perform find (a.script .standard) ()).1 := rfl
  rw [hplace] at ho
  have hwritten : o.written = d.introduction ++ Excerpt.begun ['a'] [] ⟨-(Text.tooLong : Int), 0⟩ :=
    congrArg Outcome.written ho
  refine ⟨hds, congrArg Outcome.failure ho, _, Ansi.stretches_paint (escape_notMem_written .standard hds), ?_, rfl⟩
  show (o.written.filterMap Ansi.stretch?).length = 3
  rw [Ansi.length_filterMap_stretch?, hwritten, List.countP_append, Excerpt.countP_begun]
  rfl

end Report

end CodeFrame
