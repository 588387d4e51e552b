import CodeFrame.Value.Words

/-!
# Reading a diagnostic from a value

A `Reader` takes from any value what a diagnostic needs. `Reader.byPart` looks at the parts of the value: if it is a
diagnostic or carries one, at those of that diagnostic alone (`Value.target`). What is missing or of the wrong kind is
passed over; reading is refused only if there is something in the place of the related places that cannot be gone
through, or a message among them cannot be worded. `Diagnostic.ofValue` puts together what a reader takes.
-/

namespace CodeFrame

/-- The related place that an item stands for: it is one, or it yields a message and a span. A text is never a pair. A
message that has no words is refused. -/
def Related.ofValue? : Value → Except Fault (Option Related)
  | .related r => return some r
  | .text _ => return none
  | .severity _ => return none
  | v =>
    match v.elements? with
    | some [message, .span location] => do return some ⟨← message.words, location⟩
    | _ => return none

/-- The related places that items stand for; the other items are passed over. -/
def Related.ofValues : List Value → Except Fault (List Related)
  | [] => return []
  | v :: vs => do
    let first ← ofValue? v
    return first.toList ++ (← ofValues vs)

/-- The value in which to look: the diagnostic that the value is or carries, or else the value itself. -/
def Value.target : Value → Value
  | .diagnostic d => .diagnostic d
  | v =>
    match v.part? .diagnostic with
    | some (.diagnostic d) => .diagnostic d
    | _ => v

/-- Takes from any value what a diagnostic needs. -/
structure Reader where
  comment : Value → Option Text
  primary : Value → Option Span
  related : Value → Except Fault (List Related)
  severity : Value → Severity

namespace Reader

/-- The part that holds the primary place, under either of its names. -/
def primaryPart? (v : Value) : Option Value :=
  match v.part? .primary with
  | none => v.part? .place
  | some .nothing => v.part? .place
  | some p => some p

/-- The related places among what a value yields, none if there is nothing to it. -/
def relatedOf (v : Value) : Except Fault (List Related) :=
  if v.hasContent then
    match v.elements? with
    | some items => Related.ofValues items
    | none => .error .notIterable
  else .ok []

/-- Reads the parts of a value. -/
def byPart : Reader where
  comment v := (v.target.part? .comment).bind Value.text?
  primary v := (primaryPart? v.target).bind Value.span?
  related v :=
    match v.target.part? .related with
    | some r => relatedOf r
    | none => .ok []
  severity v := (((v.target.part? .severity).bind Value.text?).bind Severity.ofName?).getD .error

end Reader

/-- The diagnostic that a reader finds in a value, under the given name. -/
def Diagnostic.ofValue (r : Reader) (v : Value) (name : Text) : Except Fault Diagnostic :=
  match r.related v with
  | .ok related => .ok ⟨name, r.comment v, r.primary v, related, r.severity v⟩
  | .error f => .error f

end CodeFrame
