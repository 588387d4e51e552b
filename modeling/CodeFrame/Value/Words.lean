import CodeFrame.Value

/-!
# The words of a value

`Value.written` is how a value is written among others: texts as quotations, lists, tuples and mappings inside their
brackets, and what belongs to this library with the names of its fields. `Value.words` are the words of a value that
stands alone: those of a text, of a diagnostic or of what was raised are what it says, not how it is written.

Objects and streams have nothing to be told by; a fixed word stands for each of them. A value is refused if a number that
would have to be written is too long.
-/

namespace CodeFrame

/-- The items between brackets, with commas between them. -/
def Text.enclosed (opening closing : Char) (items : List Text) : Text :=
  opening :: List.intercalate ", ".toList items ++ [closing]

/-- The items of a tuple between parentheses; a single one has a comma after it. -/
def Text.tupled : List Text → Text
  | [item] => '(' :: item ++ ",)".toList
  | items => Text.enclosed '(' ')' items

/-- The fields of a thing with their names, between parentheses after its name. -/
def Text.labelled (name : Text) (fields : List (Text × Text)) : Text :=
  name ++ Text.enclosed '(' ')' (fields.map fun (label, value) => label ++ '=' :: value)

/-- An optional text as it is written among others. -/
def Text.quotedOr (t : Option Text) : Text :=
  match t with
  | some t => t.quoted
  | none => "None".toList

/-- A span as it is written among others. -/
def Span.written (s : Span) : Except Fault Text := do
  let start ← Text.numeral s.start
  let stop ← Text.numeral s.stop
  return Text.labelled "SourceSpan".toList
    [("source_name".toList, Text.quotedOr s.source), ("start".toList, start), ("end".toList, stop)]

/-- An optional span as it is written among others. -/
def Span.writtenOr : Option Span → Except Fault Text
  | some s => s.written
  | none => return "None".toList

/-- A severity as it is written among others. -/
def Severity.written (s : Severity) : Text :=
  match s with
  | .error => "<Severity.ERROR: 'error'>".toList
  | .warning => "<Severity.WARNING: 'warning'>".toList

/-- A related place as it is written among others. -/
def Related.written (r : Related) : Except Fault Text := do
  return Text.labelled "SecondaryLocation".toList
    [("message".toList, r.message.quoted), ("location".toList, ← r.location.written)]

/-- Related places, each as it is written. -/
def Related.writtenAll : List Related → Except Fault (List Text)
  | [] => return []
  | r :: rs => do
    let first ← r.written
    return first :: (← writtenAll rs)

/-- A diagnostic as it is written among others. -/
def Diagnostic.written (d : Diagnostic) : Except Fault Text := do
  let primary ← Span.writtenOr d.primary
  let related ← Related.writtenAll d.related
  return Text.labelled "DiagnosticRecord".toList
    [("name".toList, d.name.quoted), ("comment".toList, Text.quotedOr d.comment), ("primary_location".toList, primary),
      ("secondary_locations".toList, Text.tupled related), ("severity".toList, d.severity.written)]

/-- What was raised, as it is written among others: its kind, and its words as a quotation. -/
def Raised.written (r : Raised) : Text :=
  match r with
  | .missingSource _ => "UnknownSourceError".toList ++ Text.enclosed '(' ')' [r.text.quoted]
  | _ => "SourceReferenceError".toList ++ Text.enclosed '(' ')' [r.text.quoted]

namespace Value

mutual

/-- A value as it is written among others. -/
def written : Value → Except Fault Text
  | .nothing => return "None".toList
  | .bool b => return if b then "True".toList else "False".toList
  | .int n => Text.numeral n
  | .text t => return t.quoted
  | .severity s => return s.written
  | .list items => do return Text.enclosed '[' ']' (← writtenAll items)
  | .tuple items => do return Text.tupled (← writtenAll items)
  | .stream _ => return "<stream>".toList
  | .mapping entries => do return Text.enclosed '\x7b' '\x7d' (← writtenEntries entries)
  | .bytes content => return Text.quotedBytes content
  | .span s => s.written
  | .related r => r.written
  | .diagnostic d => d.written
  | .raised r => return r.written
  | .object _ => return "<object>".toList
  | .exception _ => return "<exception>".toList

/-- The values of a list, each as it is written. -/
def writtenAll : List Value → Except Fault (List Text)
  | [] => return []
  | v :: vs => do
    let first ← written v
    return first :: (← writtenAll vs)

/-- The entries of a mapping, each as its key and its value are written. -/
def writtenEntries : List (Value × Value) → Except Fault (List Text)
  | [] => return []
  | (k, v) :: rest => do
    let key ← written k
    let value ← written v
    return (key ++ ": ".toList ++ value) :: (← writtenEntries rest)

end

/-- The words of a value that stands alone. -/
def words : Value → Except Fault Text
  | .text t => return t
  | .severity s => return s.name
  | .diagnostic d => return d.headline
  | .raised r => return r.text
  | .exception _ => return []
  | v => v.written

end Value

end CodeFrame
