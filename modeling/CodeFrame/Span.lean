import CodeFrame.Fault

/-!
# Spans

A `Span` is a range of offsets in a source, which has a name or, if it cannot be shown, none. `Span.ofBounds` refuses
bounds that are negative or out of order and accepts all others (`Span.ofBounds_eq_ok_iff`).
-/

namespace CodeFrame

/-- A range of offsets, from `start` on and before `stop`. Without a source it cannot be shown. -/
structure Span where
  source : Option Text
  start : Nat
  stop : Nat
  start_le_stop : start ≤ stop := by omega
  deriving DecidableEq

namespace Span

/-- The span with the given bounds. The start is judged first. -/
def ofBounds (source : Option Text) (start stop : Int) : Except Fault Span :=
  if start < 0 then .error (.negativeStart start)
  else if _ : stop < start then .error (.stopBeforeStart start stop)
  else .ok { source, start := start.toNat, stop := stop.toNat }

/-- Whether the span has a source to show; the empty name is a name. -/
def isNamed (s : Span) : Bool := s.source.isSome

/-- Exactly the bounds in order are accepted, and they are kept. -/
theorem ofBounds_eq_ok_iff {source : Option Text} {start stop : Int} {s : Span} :
    ofBounds source start stop = .ok s ↔ s.source = source ∧ (s.start : Int) = start ∧ (s.stop : Int) = stop := by
  obtain ⟨source', a, b, hab⟩ := s
  unfold ofBounds
  split
  · simp; omega
  · split
    · simp; omega
    · simp only [Except.ok.injEq, mk.injEq]
      constructor
      · rintro ⟨rfl, rfl, rfl⟩; exact ⟨rfl, by omega, by omega⟩
      · rintro ⟨rfl, h₁, h₂⟩; exact ⟨rfl, by omega, by omega⟩

end Span

end CodeFrame
