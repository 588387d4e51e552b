import CodeFrame.Proofs.Ledger
import CodeFrame.Proofs.Progress
import CodeFrame.Session

/-!
# Sessions without memory

The only thing that a step of a session leaves to the next one is the catalog, and what a catalog answers is fixed by
its texts (`Catalog.find_follows`). A step therefore has the outcome that it has on its own in a new catalog with the
sources registered so far, whatever was reported before it and however it ended; and of these sources only those count
that its places mention (`outcome_in_session`).

The texts that a session has reached are those in the list of its registrations (`Session.textOf?_runAll`).
-/

namespace CodeFrame

/-- A source under another name does not matter, wherever it stands. -/
theorem textIn?_insert (as bs : List (Text × SourceText)) {name name' : Text} (source : SourceText) (h : name ≠ name') :
    textIn? (as ++ (name, source) :: bs) name' = textIn? (as ++ bs) name' := by
  have hone : textIn? [(name, source)] name' = none := (textIn?_singleton name' name source).trans (if_neg h)
  rw [← List.singleton_append, textIn?_append, textIn?_append, hone, textIn?_append as, Option.or_none]

namespace Session

/-- The source that a step registers, if it registers one. -/
def Step.added : Step → List (Text × SourceText)
  | .add name source => [(name, source)]
  | _ => []

/-- The names of the sources that the places of a step mention. -/
def Step.sources : Step → List Text
  | .add _ _ => []
  | .heading place => (place.bind Span.source).toList
  | .excerpt place _ => (place.bind Span.source).toList
  | .diagnostic d => d.sources
  | .diagnostics ds => ds.flatMap Diagnostic.sources
  | .value reader v name =>
    match Diagnostic.ofValue reader v name with
    | .ok d => d.sources
    | .error _ => []

/-- A step looks up the sources that its places mention, and no others. -/
theorem Step.names_script {l : Limits} {step : Step} {script : Script} (h : step.script l = .ok script) :
    Script.names script = step.sources := by
  cases step with
  | add name source => cases h; rfl
  | heading place => cases h; exact names_quoteScript place _
  | excerpt place message => cases h; exact names_quoteScript place _
  | diagnostic d => cases h; exact d.names_script l
  | diagnostics ds => cases h; exact names_diagnosticsScript l ds
  | value reader v name =>
    cases hd : Diagnostic.ofValue reader v name with
    | ok d =>
      simp only [Step.script, hd, Except.map] at h
      cases h
      simp only [Step.sources, hd]
      exact d.names_script l
    | error f =>
      simp only [Step.script, hd, Except.map] at h
      cases h

variable {l : Limits} {step : Step} {c c' : Catalog}

/-- A step that mentions sources registers none. -/
theorem Step.textOf?_extend_of_mem {name : Text} (h : name ∈ step.sources) (c : Catalog) :
    (step.extend c).textOf? name = c.textOf? name := by
  cases step with
  | add => cases h
  | _ => rfl

/-! ## One step -/

/-- **The outcome of a step depends only on the texts of the sources that it mentions.** -/
theorem run_eq_of_agree (l : Limits) (h : ∀ name ∈ step.sources, c.textOf? name = c'.textOf? name) :
    (run Catalog.find l step c).1 = (run Catalog.find l step c').1 := by
  unfold run
  cases hs : step.script l with
  | error f => rfl
  | ok script =>
    have hwarm := (perform_of_follows (Catalog.find_follows (step.extend c).textOf?) script fun _ => rfl).1
    have hcold := (perform_of_follows (Catalog.find_follows (step.extend c').textOf?) script fun _ => rfl).1
    dsimp only
    rw [hwarm, hcold]
    refine congrArg Prod.fst (perform_eq_of_agree script fun name hname => ?_)
    rw [Step.names_script hs] at hname
    unfold Catalog.locate
    rw [Step.textOf?_extend_of_mem hname, Step.textOf?_extend_of_mem hname, h name hname]

/-- A step changes no text but that of the source which it registers, whether it fails or not. -/
theorem textOf?_run (l : Limits) (step : Step) (c : Catalog) (name : Text) :
    (run Catalog.find l step c).2.textOf? name = (step.extend c).textOf? name := by
  unfold run
  cases hs : step.script l with
  | ok script => exact (perform_of_follows (Catalog.find_follows (step.extend c).textOf?) script fun _ => rfl).2 name
  | error f =>
    -- only a value may have no script, and it registers nothing
    cases step with
    | value => rfl
    | _ => cases hs

/-! ## A whole session -/

/-- The outcome of a step among others is its outcome in the catalog that the steps before it leave. -/
theorem getElem?_runAll (find : Finder Catalog Fault) (l : Limits) (step : Step) (after : List Step) :
    ∀ (before : List Step) (c : Catalog),
      (runAll find l (before ++ step :: after) c).1[before.length]? =
        some (run find l step (runAll find l before c).2).1
  | [], _ => rfl
  | first :: before, c => getElem?_runAll find l step after before (run find l first c).2

theorem Step.textOf?_extend {sources : List (Text × SourceText)}
    (h : ∀ name, c.textOf? name = textIn? sources name) (step : Step) (name : Text) :
    (step.extend c).textOf? name = textIn? (sources ++ step.added) name := by
  cases step with
  | add added source =>
    calc (c.add added source).textOf? name = if added = name then some source.text else c.textOf? name :=
          Catalog.textOf?_add c added source name
      _ = textIn? (sources ++ [(added, source)]) name := by rw [textIn?_concat, h]
  | _ => simpa [Step.added, Step.extend] using h name

/-- After some steps, a catalog has the texts of all that was registered. -/
theorem textOf?_runAll (l : Limits) : ∀ (steps : List Step) {sources : List (Text × SourceText)} {c : Catalog},
    (∀ name, c.textOf? name = textIn? sources name) → ∀ name,
      (runAll Catalog.find l steps c).2.textOf? name = textIn? (sources ++ steps.flatMap Step.added) name
  | [], sources, _, h, name => by
    rw [List.flatMap_nil, List.append_nil]
    exact h name
  | step :: rest, sources, c, h, name => by
    have hstep : ∀ name, (run Catalog.find l step c).2.textOf? name = _ := fun name =>
      (textOf?_run l step c name).trans (Step.textOf?_extend h step name)
    rw [List.flatMap_cons, ← List.append_assoc]
    exact textOf?_runAll l rest hstep name

theorem textOf?_ofList (sources : List (Text × SourceText)) (name : Text) :
    (Catalog.ofList sources).textOf? name = textIn? sources name :=
  (Desk.keeps_ofList sources).texts name

/-- **Nothing is carried from one step of a session to the next but the sources.** A step writes, looks up and fails as
it does on its own in a new catalog with the sources registered so far. Of these, only the current texts of the sources
matter that its places mention; in particular, another source that is added or replaced anywhere before changes
nothing. -/
theorem outcome_in_session (l : Limits) (sources : List (Text × SourceText)) (before : List Step) (step : Step)
    (after : List Step) :
    let outcome := fun (sources : List (Text × SourceText)) (before after : List Step) =>
      (runAll Catalog.find l (before ++ step :: after) (Catalog.ofList sources)).1[before.length]?
    let registered := sources ++ before.flatMap Step.added
    outcome sources before after = some (run Catalog.find l step (Catalog.ofList registered)).1 ∧
    (∀ sources' before' after',
      (∀ name ∈ step.sources, textIn? (sources' ++ before'.flatMap Step.added) name = textIn? registered name) →
      outcome sources' before' after' = outcome sources before after) ∧
    ∀ before₁ before₂ name source, before = before₁ ++ before₂ → name ∉ step.sources →
      outcome sources (before₁ ++ .add name source :: before₂) after = outcome sources before after := by
  intro outcome registered
  have hagree : ∀ sources' before' after',
      (∀ name ∈ step.sources, textIn? (sources' ++ before'.flatMap Step.added) name = textIn? registered name) →
      outcome sources' before' after' = some (run Catalog.find l step (Catalog.ofList registered)).1 := by
    intro sources' before' after' h
    refine (getElem?_runAll Catalog.find l step after' before' (Catalog.ofList sources')).trans (congrArg some ?_)
    refine run_eq_of_agree l fun name hname => ?_
    rw [textOf?_runAll l before' (textOf?_ofList sources'), textOf?_ofList]
    exact h name hname
  have hself := hagree sources before after fun _ _ => rfl
  refine ⟨hself, fun sources' before' after' h => (hagree sources' before' after' h).trans hself.symm, ?_⟩
  rintro before₁ before₂ name source rfl hother
  refine (hagree sources _ after fun name' hname' => ?_).trans hself.symm
  have hne : name ≠ name' := fun h => hother (h ▸ hname')
  have hinsert := textIn?_insert (sources ++ before₁.flatMap Step.added) (before₂.flatMap Step.added) source hne
  have hregistered : registered =
      sources ++ before₁.flatMap Step.added ++ before₂.flatMap Step.added := by
    rw [List.append_assoc, ← List.flatMap_append]
  rw [hregistered, ← hinsert, List.flatMap_append, List.append_assoc]
  rfl

end Session

end CodeFrame
