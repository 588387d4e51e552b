import CodeFrame.Diagnostic
import CodeFrame.Excerpt
import CodeFrame.Script

/-!
# Reports

The scripts of the things that can be reported: the heading of a place (`headingScript`), its excerpt
(`excerptScript`), a diagnostic with all its places (`Diagnostic.script`), several diagnostics
(`diagnosticsScript`). A place that is missing or has no source asks for nothing and writes nothing.
-/

namespace CodeFrame

/-- A quotation of a place, nothing if it is missing or has no source. -/
def quoteScript (place : Option Span) (draw : Text → Span → LineView → Drawing) : Script :=
  match place with
  | some s =>
    match s.source with
    | some name => [.quote name (draw name s)]
    | none => []
  | none => []

theorem quoteScript_of_unnamed {place : Option Span} (h : place.bind Span.source = none)
    (draw : Text → Span → LineView → Drawing) : quoteScript place draw = [] := by
  cases place with
  | none => rfl
  | some s =>
    have hs : s.source = none := h
    simp [quoteScript, hs]

theorem quoteScript_of_named {s : Span} {name : Text} (hs : s.source = some name)
    (draw : Text → Span → LineView → Drawing) : quoteScript (some s) draw = [.quote name (draw name s)] := by
  simp [quoteScript, hs]

/-- The heading of a place, without the end of its line. -/
def headingScript (place : Option Span) : Script :=
  quoteScript place fun name s v => .ofRuns (Excerpt.heading name (v.position s.start))

/-- The excerpt of a place. -/
def excerptScript (l : Limits) (place : Option Span) (message : Text) : Script :=
  quoteScript place fun name s v => (Excerpt.ofView l v name s message).drawing

namespace Diagnostic

/-- The role of the name of a diagnostic. -/
def nameRole (d : Diagnostic) : Role :=
  match d.severity with
  | .error => .error
  | .warning => .warning

/-- The headline as runs: the name, and the comment if there is one. -/
def headlineRuns (d : Diagnostic) : List Run :=
  .styled d.nameRole d.name ::
    match d.comment with
    | some comment => [.styled .message (": ".toList ++ comment)]
    | none => []

/-- Whether the primary place can be shown. -/
def hasPlace (d : Diagnostic) : Bool := d.primary.any Span.isNamed

/-- The lines before the first excerpt: the headline, and an empty line if the primary place cannot be shown. -/
def introduction (d : Diagnostic) : List Run :=
  d.headlineRuns ++ [.bare ['\n']] ++ if d.hasPlace then [] else [.bare ['\n']]

/-- The introduction, the excerpt of the primary place, and those of the related places in their order. -/
def script (l : Limits) (d : Diagnostic) : Script :=
  .write d.introduction ::
    (excerptScript l d.primary [] ++ d.related.flatMap fun r => excerptScript l (some r.location) r.message)

end Diagnostic

/-- Several diagnostics, in order. -/
def diagnosticsScript (l : Limits) (ds : List Diagnostic) : Script := ds.flatMap (Diagnostic.script l)

end CodeFrame
