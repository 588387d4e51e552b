import CodeFrame.Span

/-!
# Diagnostics

A `Diagnostic` says what is wrong (`Diagnostic.headline`), where (`primary`), and which other places have to do with it
(`related`, shown in this order). What a program raises is a `Raised`: bare words, a whole diagnostic, or the report of
a missing source.
-/

namespace CodeFrame

/-- How grave a diagnostic is. -/
inductive Severity where
  | error
  | warning
  deriving DecidableEq

namespace Severity

/-- The name of a severity. -/
def name : Severity → Text
  | .error => "error".toList
  | .warning => "warning".toList

/-- The severity of a name. -/
def ofName? (t : Text) : Option Severity :=
  if t = error.name then some .error else if t = warning.name then some .warning else none

/-- The severity of a name, or the refusal of the name. -/
def ofName (t : Text) : Except Fault Severity :=
  match ofName? t with
  | some s => .ok s
  | none => .error (.unknownSeverity t)

@[simp] theorem ofName?_name (s : Severity) : ofName? s.name = some s := by
  cases s <;> decide

end Severity

/-- A place that has to do with a diagnostic, and what to say about it. -/
structure Related where
  message : Text
  location : Span
  deriving DecidableEq

/-- What is wrong, where, and which other places have to do with it. -/
structure Diagnostic where
  name : Text
  comment : Option Text
  primary : Option Span
  related : List Related
  severity : Severity
  deriving DecidableEq

/-- The name of a diagnostic, and its comment if it has one. -/
def Diagnostic.headline (d : Diagnostic) : Text :=
  match d.comment with
  | some comment => d.name ++ ": ".toList ++ comment
  | none => d.name

/-- What a program raises: bare words, a diagnostic, or the report of a source that nobody knows. -/
inductive Raised where
  | words (message : Text)
  | carrying (diagnostic : Diagnostic)
  | missingSource (name : Text)
  deriving DecidableEq

namespace Raised

/-- The words of what was raised. -/
def text : Raised → Text
  | .words message => message
  | .carrying d => d.headline
  | .missingSource name => (Fault.unknownSource name).message

/-- The diagnostic that was raised. -/
def diagnostic? : Raised → Option Diagnostic
  | .carrying d => some d
  | _ => none

/-- The name of the source that was missing. -/
def missing? : Raised → Option Text
  | .missingSource name => some name
  | _ => none

end Raised

end CodeFrame
