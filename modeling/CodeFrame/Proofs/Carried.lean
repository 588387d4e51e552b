import CodeFrame.Proofs.Reading
import CodeFrame.Session

/-!
# Diagnostics that are carried

A diagnostic that a value is or carries (`Value.Carries`) is the only thing that is looked at in the value, so the other
parts of the value do not matter (`Value.Carries.target_eq`). Each part of a diagnostic is read as it is, though on its own
way: a missing primary place is looked for under its other name and not found there, no related places are no content,
and a severity is recognised by its name (`Reader.read_diagnostic`). So the diagnostic survives under a new name, and is
reported as if it had been handed over itself (`Diagnostic.carried_survives`).
-/

namespace CodeFrame

namespace Value

/-- The value is the diagnostic, was raised with it, or holds it among its attributes. -/
inductive Carries : Value → Diagnostic → Prop
  | itself (d : Diagnostic) : Carries (.diagnostic d) d
  | raised (d : Diagnostic) : Carries (.raised (.carrying d)) d
  | object {attributes : List (Text × Value)} {d : Diagnostic}
      (h : attributes.lookup Part.diagnostic.name = some (.diagnostic d)) : Carries (.object attributes) d
  | exception {attributes : List (Text × Value)} {d : Diagnostic}
      (h : attributes.lookup Part.diagnostic.name = some (.diagnostic d)) : Carries (.exception attributes) d

theorem Carries.looksIn {v : Value} {d : Diagnostic} (h : v.Carries d) : v.LooksIn (.diagnostic d) := by
  cases h with
  | itself d => exact .itself d
  | raised d => exact .carried nofun (.carrying d)
  | object h => exact .carried nofun (.object (holds_iff.2 h))
  | exception h => exact .carried nofun (.exception (holds_iff.2 h))

theorem Carries.target_eq {v : Value} {d : Diagnostic} (h : v.Carries d) : v.target = .diagnostic d :=
  h.looksIn.target_eq

@[simp] theorem text?_ofText? (t : Option Text) : (ofText? t).text? = t := by
  cases t <;> rfl

end Value

namespace Reader

open Value

/-! ## The parts of a diagnostic -/

/-- The primary place is found under its own name, or under neither. -/
theorem primary_diagnostic (d : Diagnostic) : (primaryPart? (.diagnostic d)).bind Value.span? = d.primary := by
  have hpart : (Value.diagnostic d).part? .primary = some (ofSpan? d.primary) := rfl
  unfold primaryPart?
  rw [hpart]
  cases d.primary <;> rfl

/-- Related places stand for themselves. -/
theorem entries_map_related : ∀ rs : List Related, Related.Entries (rs.map .related) rs
  | [] => .nil
  | r :: rs => .take (.itself r) (entries_map_related rs)

theorem relatedOf_tuple (rs : List Related) : relatedOf (.tuple (rs.map .related)) = .ok rs := by
  unfold relatedOf
  cases rs with
  | nil => rfl
  | cons r rs =>
    have hentries := (entries_map_related (r :: rs)).ofValues_eq
    simp only [hasContent, elements?, hentries]
    rfl

/-- **Every part of a diagnostic is read as it is**, wherever the value holds it. -/
theorem read_diagnostic {v : Value} {d : Diagnostic} (h : v.target = .diagnostic d) :
    byPart.comment v = d.comment ∧ byPart.primary v = d.primary ∧ byPart.related v = .ok d.related ∧
      byPart.severity v = d.severity := by
  simp only [byPart, h]
  refine ⟨text?_ofText? d.comment, primary_diagnostic d, relatedOf_tuple d.related, ?_⟩
  show ((Severity.ofName? d.severity.name).getD .error) = d.severity
  rw [Severity.ofName?_name, Option.getD_some]

end Reader

namespace Diagnostic

/-- What is read from the value of a diagnostic is the diagnostic under the new name. -/
theorem ofValue_of_target {v : Value} {d : Diagnostic} (h : v.target = .diagnostic d) (name : Text) :
    ofValue .byPart v name = .ok { d with name := name } := by
  obtain ⟨hcomment, hprimary, hrelated, hseverity⟩ := Reader.read_diagnostic h
  exact ofValue_eq_ok_iff.2 ⟨rfl, hcomment.symm, hprimary.symm, hrelated, hseverity.symm⟩

/-- A value of which a diagnostic is read is reported as this diagnostic. -/
theorem run_value {reader : Reader} {v : Value} {name : Text} {d : Diagnostic} (h : ofValue reader v name = .ok d)
    (find : Finder Catalog Fault) (l : Limits) (c : Catalog) :
    Session.run find l (.value reader v name) c = Session.run find l (.diagnostic d) c := by
  have hscript : (Session.Step.value reader v name).script l = .ok (d.script l) := by
    simp only [Session.Step.script, h]
    rfl
  unfold Session.run
  rw [hscript]
  rfl

/-- **A carried diagnostic survives.** Read from a value that is or carries it, whatever else the value holds, a diagnostic
is the same but for its name, which is the one given; under its own name it is the same. So is any diagnostic that was
read from a value, however it was read, if it is read once more. And the value is reported as the diagnostic with the new
name would be. -/
theorem carried_survives {v : Value} {d : Diagnostic} (h : v.Carries d) (name : Text) :
    ofValue .byPart v name = .ok { d with name := name } ∧ ofValue .byPart v d.name = .ok d ∧
    (∀ (reader : Reader) (w : Value) (name' : Text) (d' : Diagnostic), ofValue reader w name' = .ok d' →
      ofValue .byPart (.diagnostic d') name = .ok { d' with name := name }) ∧
    ∀ (find : Finder Catalog Fault) (l : Limits) (c : Catalog),
      Session.run find l (.value .byPart v name) c =
        Session.run find l (.diagnostic { d with name := name }) c := by
  have hread := ofValue_of_target h.target_eq
  refine ⟨hread name, hread d.name, ?_, fun find l c => run_value (hread name) find l c⟩
  intro reader w name' d' _
  exact ofValue_of_target rfl name

/-- An exception that carries a diagnostic without a primary place and without related places, beside a place and related
places of its own that could not be gone through. -/
theorem carried_survives_beside_others :
    let d : Diagnostic := ⟨['e'], some [], none, [], .warning⟩
    let place : Span := { source := some ['s'], start := 3, stop := 8 }
    let v : Value := .exception [(Part.comment.name, .int 1), (Part.place.name, .span place),
      (Part.related.name, .int 7), (Part.severity.name, .text "error".toList), (Part.diagnostic.name, .diagnostic d)]
    v.Carries d ∧ ofValue .byPart v ['n'] = .ok ⟨['n'], some [], none, [], .warning⟩ := by
  intro d place v
  have hv : v.Carries d := .exception rfl
  exact ⟨hv, (carried_survives hv ['n']).1⟩

end Diagnostic

end CodeFrame
