import CodeFrame.Catalog
import CodeFrame.Report
import CodeFrame.Value.Reader

/-!
# Sessions

A session is a sequence of steps over one catalog: sources are added or replaced, places and diagnostics are reported.
Each step has an outcome of its own (`Session.run`, `Session.runAll`); only the catalog is carried from one step to the
next, also after a failure.
-/

namespace CodeFrame

/-- A finder that first looks among the given views. -/
def Finder.preferring {σ ε : Type} (views : List (Text × LineView)) (find : Finder σ ε) : Finder σ ε :=
  fun name s =>
    match views.lookup name with
    | some v => (.ok v, s)
    | none => find name s

namespace Session

/-- A step of a session. -/
inductive Step where
  | add (name : Text) (source : SourceText)
  | heading (place : Option Span)
  | excerpt (place : Option Span) (message : Text)
  | diagnostic (d : Diagnostic)
  | diagnostics (ds : List Diagnostic)
  | value (reader : Reader) (v : Value) (name : Text)

/-- What a step is going to write. -/
def Step.script (l : Limits) : Step → Except Fault Script
  | .add _ _ => .ok []
  | .heading place => .ok (headingScript place)
  | .excerpt place message => .ok (excerptScript l place message)
  | .diagnostic d => .ok (d.script l)
  | .diagnostics ds => .ok (diagnosticsScript l ds)
  | .value reader v name => (Diagnostic.ofValue reader v name).map (Diagnostic.script l)

/-- The catalog after the sources of a step were added. -/
def Step.extend (c : Catalog) : Step → Catalog
  | .add name source => c.add name source
  | _ => c

/-- Takes one step. -/
def run (find : Finder Catalog Fault) (l : Limits) (step : Step) (c : Catalog) : Outcome Fault × Catalog :=
  match step.script l with
  | .ok script => perform find script (step.extend c)
  | .error f => (.failed (.fault f), c)

/-- Takes steps in order. -/
def runAll (find : Finder Catalog Fault) (l : Limits) : List Step → Catalog → List (Outcome Fault) × Catalog
  | [], c => ([], c)
  | step :: rest, c =>
    let (o, c') := run find l step c
    let (os, c'') := runAll find l rest c'
    (o :: os, c'')

end Session

end CodeFrame
