import CodeFrame.Proofs.Following
import CodeFrame.Proofs.Frame
import CodeFrame.Report

/-!
# How far a report comes

The places of a diagnostic are shown in their order (`Diagnostic.places`): the primary one, then the related ones. Those
without a source are passed over, each other one asks for its source when its turn comes. So a report of several
diagnostics can end early at one kind of point only, at a place that fails: its source is missing, or a number in its
excerpt is too long (`Related.Fails`, `perform_diagnosticsScript_cases`). Up to there it is a report of the diagnostics
before, the introduction of the next one, and its excerpts up to that place (`reportUpTo`).

With a finder that answers by a function, what stands in front of that point is what each of the diagnostics and each of
the places gives on its own (`written_reportUpTo`, `outcome_of_diagnostics`).
-/

namespace CodeFrame

/-! ## Places in their order -/

/-- The excerpt of a related place. -/
def Related.script (l : Limits) (r : Related) : Script := excerptScript l (some r.location) r.message

/-- **How a place fails**, by the answer for its source, and what is written of its excerpt then. If its source is missing,
nothing is; if a number is too long, nothing either, but for one line, at which the rows above the source row are. -/
inductive Related.Fails {ε : Type} (r : Related) (name : Text) (answer : Except ε LineView) :
    Failure ε → List Run → Prop
  | missing {e : ε} (h : answer = .error e) : Fails r name answer (.missing e) []
  | tooLong {v : LineView} (h : answer = .ok v) (hp : ¬ (v.position r.location.start).Fits) :
      Fails r name answer (.fault .numeralTooLong)
        (if (v.position r.location.start).line = -(Text.tooLong : Int) ∧
            Text.Fits ((v.position r.location.start).column + 1) then
          Excerpt.begun name r.message (v.position r.location.start)
        else [])

/-- The names of the sources of some places, without the places that have none. -/
def sourcesOf (places : List Related) : List Text := places.filterMap fun r => r.location.source

namespace Diagnostic

/-- The primary place, of which nothing is said, and the related places. -/
def places (d : Diagnostic) : List Related := (d.primary.map fun s => ⟨[], s⟩).toList ++ d.related

/-- The names of the sources of a diagnostic, in the order in which they are looked up. -/
def sources (d : Diagnostic) : List Text := sourcesOf d.places

/-- The introduction of a diagnostic, and the excerpts of some places. -/
def scriptUpTo (l : Limits) (d : Diagnostic) (shown : List Related) : Script :=
  .write d.introduction :: shown.flatMap (Related.script l)

theorem script_eq (l : Limits) (d : Diagnostic) : d.script l = d.scriptUpTo l d.places := by
  unfold script scriptUpTo places Related.script
  cases d.primary with
  | none => rfl
  | some s => rfl

end Diagnostic

/-- The reports of some diagnostics, and the report of another one up to a point between two excerpts. -/
def reportUpTo (l : Limits) (earlier : List Diagnostic) (d : Diagnostic) (shown : List Related) : Script :=
  diagnosticsScript l earlier ++ d.scriptUpTo l shown

theorem sourcesOf_cons (r : Related) (rest : List Related) :
    sourcesOf (r :: rest) = r.location.source.toList ++ sourcesOf rest := by
  unfold sourcesOf
  rw [List.filterMap_cons]
  cases r.location.source <;> rfl

/-- A quotation asks for the source of its place. -/
theorem names_quoteScript (place : Option Span) (draw : Text → Span → LineView → Drawing) :
    Script.names (quoteScript place draw) = (place.bind Span.source).toList := by
  cases hplace : place.bind Span.source with
  | none =>
    rw [quoteScript_of_unnamed hplace]
    rfl
  | some name =>
    obtain ⟨s, rfl, hs⟩ := Option.bind_eq_some_iff.1 hplace
    rw [quoteScript_of_named hs]
    rfl

section Place

variable {l : Limits} {r : Related}

theorem Related.script_of_named {name : Text} (h : r.location.source = some name) :
    r.script l = [.quote name fun v => (Excerpt.ofView l v name r.location r.message).drawing] := by
  unfold script excerptScript
  rw [quoteScript_of_named h]

theorem Related.script_of_unnamed (h : r.location.source = none) : r.script l = [] := by
  have hplace : (some r.location).bind Span.source = none := h
  unfold script excerptScript
  rw [quoteScript_of_unnamed hplace]

theorem Related.names_script (l : Limits) (r : Related) : Script.names (r.script l) = r.location.source.toList := by
  unfold script excerptScript
  exact names_quoteScript (some r.location) _

variable {σ ε : Type} {find : Finder σ ε} {st : σ}

theorem Related.perform_of_missing {name : Text} {e : ε} (hs : r.location.source = some name)
    (hf : (find name st).1 = .error e) : (perform find (r.script l) st).1 = ⟨[], [name], some (.missing e)⟩ := by
  rw [script_of_named hs, perform_quote_of_missing (Prod.ext hf rfl)]

theorem Related.perform_of_found {name : Text} {v : LineView} (hs : r.location.source = some name)
    (hf : (find name st).1 = .ok v) :
    (perform find (r.script l) st).1 = .drawn name (Excerpt.ofView l v name r.location r.message).drawing := by
  rw [script_of_named hs, perform_quote_of_found (Prod.ext hf rfl)]

/-- A place whose source is found does not fail exactly if the numbers of its excerpt can be written. -/
theorem Related.done_iff_of_found {name : Text} {v : LineView} (hs : r.location.source = some name)
    (hf : (find name st).1 = .ok v) :
    (perform find (r.script l) st).1.failure = none ↔ (v.position r.location.start).Fits := by
  rw [perform_of_found hs hf, Outcome.failure_drawn, Option.map_eq_none_iff]
  exact Excerpt.fault_ofRows_eq_none_iff _ _ _ _

/-- The one line that can be counted from one, but not from zero, ends the excerpt before its source row. -/
theorem Related.perform_of_begun {name : Text} {v : LineView} (hs : r.location.source = some name)
    (hf : (find name st).1 = .ok v) (hline : (v.position r.location.start).line = -(Text.tooLong : Int))
    (hcolumn : Text.Fits ((v.position r.location.start).column + 1)) :
    (perform find (r.script l) st).1 =
      ⟨Excerpt.begun name r.message (v.position r.location.start), [name], some (.fault .numeralTooLong)⟩ := by
  have hmargin : ¬ Text.Fits (v.position r.location.start).line := by
    rw [hline]
    exact Text.not_fits_neg_tooLong
  have hnext : Text.Fits ((v.position r.location.start).line + 1) := by
    rw [hline]
    exact Text.fits_neg_tooLong_succ
  have hdrawing : (Excerpt.ofView l v name r.location r.message).drawing = _ :=
    Excerpt.ofRows_of_headingFits _ _ _ _ ⟨hnext, hcolumn⟩ hmargin
  rw [perform_of_found hs hf, hdrawing]
  rfl

/-- A place fails as told by the answer for its source. -/
theorem Related.perform_of_failed {e : Failure ε} (h : (perform find (r.script l) st).1.failure = some e) :
    ∃ name written, r.location.source = some name ∧ r.Fails name (find name st).1 e written ∧
      (perform find (r.script l) st).1 = ⟨written, [name], some e⟩ := by
  cases hs : r.location.source with
  | none =>
    rw [script_of_unnamed hs] at h
    cases h
  | some name =>
    cases hf : (find name st).1 with
    | error e' =>
      rw [perform_of_missing hs hf] at h ⊢
      cases h
      exact ⟨name, [], rfl, hf ▸ .missing rfl, rfl⟩
    | ok v =>
      rw [perform_of_found hs hf] at h ⊢
      by_cases hp : (v.position r.location.start).Fits
      · have hwhole : (Excerpt.ofView l v name r.location r.message).drawing = _ :=
          Excerpt.ofRows_of_fits _ _ _ _ hp
        rw [hwhole] at h
        cases h
      · have hpart : (Excerpt.ofView l v name r.location r.message).drawing = _ :=
          Excerpt.ofRows_of_not_fits _ _ _ _ hp
        rw [hpart] at h ⊢
        cases h
        exact ⟨name, _, rfl, hf ▸ .tooLong rfl hp, rfl⟩

end Place

theorem names_shown (l : Limits) : ∀ shown : List Related,
    Script.names (shown.flatMap (Related.script l)) = sourcesOf shown
  | [] => rfl
  | r :: rest => by
    rw [List.flatMap_cons, Script.names_append, Related.names_script, names_shown l rest, sourcesOf_cons]

theorem Diagnostic.names_script (l : Limits) (d : Diagnostic) : Script.names (d.script l) = d.sources := by
  rw [script_eq]
  exact names_shown l d.places

theorem names_diagnosticsScript (l : Limits) (ds : List Diagnostic) :
    Script.names (diagnosticsScript l ds) = ds.flatMap Diagnostic.sources := by
  unfold diagnosticsScript
  rw [Script.names_flatMap]
  congr 1
  funext d
  exact d.names_script l

theorem names_reportUpTo (l : Limits) (earlier : List Diagnostic) (d : Diagnostic) (shown : List Related) :
    Script.names (reportUpTo l earlier d shown) = earlier.flatMap Diagnostic.sources ++ sourcesOf shown := by
  unfold reportUpTo
  rw [Script.names_append, names_diagnosticsScript]
  exact congrArg _ (names_shown l shown)

/-! ## Where a report can end -/

section Cases

variable {σ ε : Type} (find : Finder σ ε) (l : Limits)

/-- A diagnostic is reported whole, or up to a place that fails. -/
theorem Diagnostic.perform_script_cases (d : Diagnostic) (st : σ) :
    (perform find (d.script l) st).1.failure = none ∨
      ∃ shown p rest name e written, d.places = shown ++ p :: rest ∧ p.location.source = some name ∧
        (perform find (d.scriptUpTo l shown) st).1.failure = none ∧
        p.Fails name (find name (perform find (d.scriptUpTo l shown) st).2).1 e written ∧
        (perform find (d.script l) st).1 =
          (perform find (d.scriptUpTo l shown) st).1.andThen ⟨written, [name], some e⟩ := by
  rw [script_eq]
  rcases perform_flatMap_cases find (Related.script l) d.places st with h | ⟨shown, p, rest, e, hd, hdone, hp, ho⟩
  · exact Or.inl h
  · obtain ⟨name, written, hname, hfails, hop⟩ := Related.perform_of_failed hp
    refine Or.inr ⟨shown, p, rest, name, e, written, hd, hname, hdone, hfails, ?_⟩
    unfold scriptUpTo
    rw [perform_write, perform_write, ho, hop]
    simp only [Outcome.andThen, List.append_assoc]

/-- **Where a report can end**: behind its last diagnostic, or at a place that fails. -/
theorem perform_diagnosticsScript_cases (ds : List Diagnostic) (st : σ) :
    (perform find (diagnosticsScript l ds) st).1.failure = none ∨
      ∃ earlier d later shown p rest name e written,
        ds = earlier ++ d :: later ∧ d.places = shown ++ p :: rest ∧ p.location.source = some name ∧
        (perform find (reportUpTo l earlier d shown) st).1.failure = none ∧
        p.Fails name (find name (perform find (reportUpTo l earlier d shown) st).2).1 e written ∧
        (perform find (diagnosticsScript l ds) st).1 =
          (perform find (reportUpTo l earlier d shown) st).1.andThen ⟨written, [name], some e⟩ := by
  rcases perform_flatMap_cases find (Diagnostic.script l) ds st with h | ⟨earlier, d, later, e, hds, hdone, hd, ho⟩
  · exact Or.inl h
  · rcases d.perform_script_cases find l (perform find (earlier.flatMap (Diagnostic.script l)) st).2 with
      hnone | ⟨shown, p, rest, name, e', written, hplaces, hname, hshown, hfails, hod⟩
    · rw [hnone] at hd
      cases hd
    · refine Or.inr ⟨earlier, d, later, shown, p, rest, name, e', written, hds, hplaces, hname, ?_⟩
      have happend : perform find (reportUpTo l earlier d shown) st = _ := perform_append_of_done hdone
      rw [happend]
      refine ⟨hshown, hfails, ?_⟩
      unfold diagnosticsScript
      rw [ho, hod]
      simp only [Outcome.andThen, List.append_assoc]

end Cases

/-! ## What a report has written where it ends -/

theorem paint_flatMap {α : Type} (painter : Painter) (f : α → List Run) (xs : List α) :
    paint painter (xs.flatMap f) = xs.flatMap fun x => paint painter (f x) :=
  List.flatMap_assoc

/-- The introduction is the headline on a line of its own, and an empty line if the primary place cannot be shown. -/
theorem paint_introduction (painter : Painter) (d : Diagnostic) :
    paint painter d.introduction = paint painter d.headlineRuns ++ '\n' :: if d.hasPlace then [] else ['\n'] := by
  unfold Diagnostic.introduction
  cases d.hasPlace <;> simp [Run.paint]

section Function

variable {σ ε : Type} {locate : Text → Except ε LineView} {l : Limits} {s : σ}

/-- A place does not fail exactly if its source is found and the numbers of its excerpt can be written. -/
theorem Related.failure_script_eq_none_iff {r : Related} :
    (perform (Finder.ofFunction locate) (r.script l) s).1.failure = none ↔
      ∀ name ∈ r.location.source, ∃ v, locate name = .ok v ∧ (v.position r.location.start).Fits := by
  cases hs : r.location.source with
  | none =>
    rw [script_of_unnamed hs]
    exact iff_of_true rfl nofun
  | some name =>
    simp only [Option.mem_some_iff, forall_eq']
    cases hv : locate name with
    | error e =>
      rw [perform_of_missing hs hv]
      exact iff_of_false nofun nofun
    | ok v =>
      rw [done_iff_of_found hs hv]
      simp

/-- A diagnostic does not fail exactly if none of its places does. -/
theorem Diagnostic.failure_script_eq_none_iff {d : Diagnostic} :
    (perform (Finder.ofFunction locate) (d.script l) s).1.failure = none ↔
      ∀ r ∈ d.places, ∀ name ∈ r.location.source, ∃ v, locate name = .ok v ∧ (v.position r.location.start).Fits := by
  rw [script_eq, scriptUpTo, perform_write]
  refine (failure_flatMap_eq_none_iff (Related.script l)).trans ?_
  simp only [Related.failure_script_eq_none_iff]

/-- A report does not fail exactly if none of its diagnostics does. -/
theorem failure_diagnosticsScript_eq_none_iff {ds : List Diagnostic} :
    (perform (Finder.ofFunction locate) (diagnosticsScript l ds) s).1.failure = none ↔
      ∀ d ∈ ds, ∀ r ∈ d.places, ∀ name ∈ r.location.source,
        ∃ v, locate name = .ok v ∧ (v.position r.location.start).Fits := by
  unfold diagnosticsScript
  rw [failure_flatMap_eq_none_iff (Diagnostic.script l)]
  simp only [Diagnostic.failure_script_eq_none_iff]

/-- Up to a point between two excerpts, what the diagnostics and the places give on their own is written. -/
theorem written_reportUpTo {earlier : List Diagnostic} {d : Diagnostic} {shown : List Related}
    (h : (perform (Finder.ofFunction locate) (reportUpTo l earlier d shown) s).1.failure = none) :
    (∀ d' ∈ earlier, (perform (Finder.ofFunction locate) (d'.script l) s).1.failure = none) ∧
      (∀ r ∈ shown, (perform (Finder.ofFunction locate) (r.script l) s).1.failure = none) ∧
      (perform (Finder.ofFunction locate) (reportUpTo l earlier d shown) s).1.written =
        (earlier.flatMap fun d' => (perform (Finder.ofFunction locate) (d'.script l) s).1.written) ++
          (d.introduction ++
            shown.flatMap fun r => (perform (Finder.ofFunction locate) (r.script l) s).1.written) := by
  obtain ⟨hearlier, hshown⟩ := failure_append_eq_none_iff.1 h
  rw [perform_ofFunction_snd, Diagnostic.scriptUpTo, perform_write] at hshown
  refine ⟨(failure_flatMap_eq_none_iff _).1 hearlier, (failure_flatMap_eq_none_iff _).1 hshown, ?_⟩
  rw [← written_flatMap_of_done _ hearlier, ← written_flatMap_of_done _ hshown, reportUpTo,
    perform_append_of_done hearlier, perform_ofFunction_snd, Diagnostic.scriptUpTo, perform_write]
  rfl

/-- **A report stops at a place that fails.** Sources are found as by a function of the name. The report does not fail
exactly if every source of its places is found and the numbers of its excerpts can be written; then it is what the
diagnostics give on their own, one after another. Otherwise it fails as the first place does that fails: as the search
for its source, or because a number is too long. What is written by then is the earlier diagnostics, the headline of the
next one on its line, an empty line if its primary place cannot be shown, the excerpts of its places before the one that
fails, and of that one what is written of a place that fails. Each source was looked up once for each of its places, in
their order, up to the one that fails. -/
theorem outcome_of_diagnostics {find : Finder σ ε} {states : σ → Prop} (hf : find.Follows states locate)
    (hst : states s) (l : Limits) (painter : Painter) (ds : List Diagnostic) :
    let o := (perform find (diagnosticsScript l ds) s).1
    let report := fun d : Diagnostic => (perform find (d.script l) s).1
    let excerpt := fun r : Related => (perform find (excerptScript l (some r.location) r.message) s).1
    (o.failure = none ↔ ∀ d ∈ ds, ∀ r ∈ d.places, ∀ name ∈ r.location.source,
      ∃ v, locate name = .ok v ∧ (v.position r.location.start).Fits) ∧
    (o.failure = none →
      o.result painter = .ok (ds.flatMap fun d => (report d).text painter) ∧
      o.lookups = ds.flatMap Diagnostic.sources) ∧
    ∀ e, o.failure = some e → ∃ earlier d later shown p rest name written,
      ds = earlier ++ d :: later ∧ d.places = shown ++ p :: rest ∧
      p.location.source = some name ∧ p.Fails name (locate name) e written ∧
      (∀ d' ∈ earlier, (report d').failure = none) ∧ (∀ r ∈ shown, (excerpt r).failure = none) ∧
      o.text painter =
        (earlier.flatMap fun d' => (report d').text painter) ++
        (paint painter d.headlineRuns ++ '\n' :: if d.hasPlace then [] else ['\n']) ++
        (shown.flatMap fun r => (excerpt r).text painter) ++ paint painter written ∧
      o.lookups = earlier.flatMap Diagnostic.sources ++ sourcesOf shown ++ [name] := by
  intro o report excerpt
  -- the state of the finder does not show, so that it may be left out
  have hrun : ∀ script, (perform find script s).1 = (perform (Finder.ofFunction locate) script ()).1 :=
    fun script => (perform_of_follows hf script hst).1
  have ho : o = (perform (Finder.ofFunction locate) (diagnosticsScript l ds) ()).1 := hrun _
  have hreport : report = fun d => (perform (Finder.ofFunction locate) (d.script l) ()).1 := funext fun d => hrun _
  have hexcerpt : excerpt = fun r => (perform (Finder.ofFunction locate) (r.script l) ()).1 := funext fun r => hrun _
  clear_value o report excerpt
  subst hreport hexcerpt
  refine ⟨?_, fun h => ⟨?_, ?_⟩, fun e he => ?_⟩
  · rw [ho]
    exact failure_diagnosticsScript_eq_none_iff
  · rw [ho] at h ⊢
    rw [Outcome.result_of_done h]
    unfold Outcome.text diagnosticsScript
    rw [written_flatMap_of_done (Diagnostic.script l) h, paint_flatMap]
  · rw [ho] at h ⊢
    rw [lookups_of_done h, names_diagnosticsScript]
  · rcases perform_diagnosticsScript_cases (Finder.ofFunction locate) l ds () with
      hnone | ⟨earlier, d, later, shown, p, rest, name, e', written, hds, hplaces, hname, hdone, hfails, hstop⟩
    · rw [ho, hnone] at he
      cases he
    · rw [hstop] at ho
      subst ho
      cases he
      obtain ⟨hreports, hexcerpts, hw⟩ := written_reportUpTo hdone
      refine ⟨earlier, d, later, shown, p, rest, name, written, hds, hplaces, hname, hfails, hreports, hexcerpts, ?_, ?_⟩
      · unfold Outcome.text Outcome.andThen
        rw [hw, paint_append, paint_append, paint_append, paint_flatMap, paint_flatMap, paint_introduction,
          ← List.append_assoc]
      · unfold Outcome.andThen
        rw [lookups_of_done hdone, names_reportUpTo]

/-- The source of the second of three related places is missing: the first one is shown, and nothing of the others. -/
theorem outcome_of_missing_source :
    let v : LineView := ⟨fun _ => ['x'], fun _ => ⟨0, 0⟩⟩
    let locate : Text → Except Text LineView := fun name => if name = ['a'] then .ok v else .error name
    let find : Finder Unit Text := Finder.ofFunction locate
    let a : Related := ⟨[], { source := some ['a'], start := 0, stop := 1 }⟩
    let b : Related := ⟨[], { source := some ['b'], start := 0, stop := 1 }⟩
    let d : Diagnostic := ⟨['w'], none, none, [a, b, a], .warning⟩
    let o := (perform find (diagnosticsScript .standard [d]) ()).1
    find.Follows (fun _ => True) locate ∧ o.failure = some (.missing ['b']) ∧ o.lookups = [['a'], ['b']] ∧
      o.text (fun _ t => t) =
        ['w', '\n', '\n'] ++ (perform find (excerptScript .standard (some a.location) []) ()).1.text fun _ t => t := by
  intro v locate find a b d o
  have hf : find.Follows (fun _ => True) locate := ⟨fun _ _ _ => rfl, fun _ _ _ => trivial⟩
  have hfail : o.failure = some (.missing ['b']) := by decide
  obtain ⟨-, -, hstop⟩ := outcome_of_diagnostics hf (s := ()) trivial .standard (fun _ t => t) [d]
  obtain ⟨earlier, d', later, shown, p, rest, name, written, hds, hplaces, hname, hfails, -, hexcerpts, htext, -⟩ :=
    hstop _ hfail
  have hearlier : earlier = [] := by
    cases earlier with
    | nil => rfl
    | cons x xs => simp at hds
  subst hearlier
  cases hds
  cases hfails with
  | missing hmissing =>
    have hshown : shown = [a] := by
      match shown, hplaces, hexcerpts with
      | [], hplaces, _ =>
        cases hplaces
        cases hname
        cases hmissing
      | [_], hplaces, _ =>
        cases hplaces
        rfl
      | _ :: second :: _, hplaces, hexcerpts =>
        have hb : b = second := (List.cons.inj (List.cons.inj hplaces).2).1
        subst hb
        exact absurd (hexcerpts b (by simp)) (by decide)
    refine ⟨hf, hfail, by decide, ?_⟩
    rw [htext, hshown, List.flatMap_singleton]
    exact (List.append_nil _).trans rfl

/-- Every source is found, but the line of a place cannot be written from zero: the report ends with two rows of its
excerpt. -/
theorem outcome_of_line_too_long :
    let v : LineView := ⟨fun _ => ['x'], fun _ => ⟨-(Text.tooLong : Int), 0⟩⟩
    let find : Finder Unit Text := Finder.ofFunction fun _ => .ok v
    let a : Related := ⟨[], { source := some ['a'], start := 0, stop := 1 }⟩
    let d : Diagnostic := ⟨['w'], none, none, [a], .warning⟩
    let o := (perform find (diagnosticsScript .standard [d]) ()).1
    (∀ name, ∃ v, (find name ()).1 = .ok v) ∧ o.failure = some (.fault .numeralTooLong) ∧
      o.written = d.introduction ++ Excerpt.begun ['a'] [] ⟨-(Text.tooLong : Int), 0⟩ := by
  intro v find a d o
  have hplace : (perform find (a.script .standard) ()).1 = _ :=
    Related.perform_of_begun (v := v) rfl rfl rfl (by decide : Text.Fits (0 + 1))
  have ho : o = (⟨d.introduction, [], none⟩ : Outcome Text).andThen (perform find (a.script .standard) ()).1 := rfl
  rw [hplace] at ho
  refine ⟨fun name => ⟨v, rfl⟩, ?_, ?_⟩
  · rw [ho]
    rfl
  · rw [ho]
    rfl

end Function

end CodeFrame
