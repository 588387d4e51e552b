import CodeFrame.Position
import CodeFrame.Run

/-!
# Scripts

A `Script` is what a report is going to write: fixed runs, and quotations that wait for their source. `perform` follows
it with a `Finder`, which looks a source up and may change its own state doing so. A quotation is drawn only after its
source was found, so a failed lookup ends the script and leaves no part of the quotation behind; a fault of the drawing
ends it as well, and leaves what was drawn by then. Scripts compose: performing one after another is performing both
(`perform_append`).
-/

namespace CodeFrame

/-- Looks a source up by its name, in a state that the lookup may change. -/
abbrev Finder (σ ε : Type) := Text → σ → Except ε LineView × σ

/-- One instruction of a script. -/
inductive Instruction where
  /-- Writes the runs. -/
  | write (runs : List Run)
  /-- Looks a source up and writes what is drawn from it. -/
  | quote (name : Text) (draw : LineView → Drawing)

/-- Instructions, in order. -/
abbrev Script := List Instruction

/-- Why a script ended early. -/
inductive Failure (ε : Type) where
  /-- A source is missing, as its finder tells. -/
  | missing (e : ε)
  /-- Something is refused, whatever the finder answers. -/
  | fault (f : Fault)
  deriving DecidableEq

/-- What became of a script: the runs written, the sources looked up, and the failure that ended it. -/
structure Outcome (ε : Type) where
  written : List Run
  lookups : List Text
  failure : Option (Failure ε)

namespace Outcome

variable {ε : Type}

/-- Nothing was done. -/
def nothing : Outcome ε := ⟨[], [], none⟩

/-- The script failed before it did anything. -/
def failed (e : Failure ε) : Outcome ε := ⟨[], [], some e⟩

/-- What was drawn from a source that was found. -/
def drawn (name : Text) (d : Drawing) : Outcome ε := ⟨d.runs, [name], d.fault.map .fault⟩

/-- The text that was written. -/
def text (p : Painter) (o : Outcome ε) : Text := paint p o.written

/-- The whole text, or the failure. -/
def result (p : Painter) (o : Outcome ε) : Except (Failure ε) Text :=
  match o.failure with
  | none => .ok (o.text p)
  | some e => .error e

end Outcome

variable {σ ε : Type}

/-- Follows a script to its end, or up to the first lookup or drawing that fails. -/
def perform (find : Finder σ ε) : Script → σ → Outcome ε × σ
  | [], s => (.nothing, s)
  | .write runs :: rest, s =>
    let (o, s') := perform find rest s
    ({ o with written := runs ++ o.written }, s')
  | .quote name draw :: rest, s =>
    match find name s with
    | (.error e, s') => (⟨[], [name], some (.missing e)⟩, s')
    | (.ok v, s') =>
      match (draw v).fault with
      | some _ => (.drawn name (draw v), s')
      | none =>
        let (o, s'') := perform find rest s'
        ({ o with written := (draw v).runs ++ o.written, lookups := name :: o.lookups }, s'')

/-- One script after another: the second one is performed only if the first one does not fail. -/
theorem perform_append (find : Finder σ ε) (a b : Script) (s : σ) :
    perform find (a ++ b) s =
      match perform find a s with
      | (⟨written, lookups, none⟩, s') =>
        (⟨written ++ (perform find b s').1.written, lookups ++ (perform find b s').1.lookups,
          (perform find b s').1.failure⟩, (perform find b s').2)
      | (⟨written, lookups, some e⟩, s') => (⟨written, lookups, some e⟩, s') := by
  induction a generalizing s with
  | nil => simp [perform, Outcome.nothing]
  | cons i a ih =>
    cases i with
    | write runs =>
      simp only [List.cons_append, perform, ih]
      rcases perform find a s with ⟨⟨written, lookups, _ | e⟩, s'⟩ <;> simp
    | quote name draw =>
      simp only [List.cons_append, perform]
      rcases find name s with ⟨e | v, s'⟩
      · simp
      · cases hd : (draw v).fault with
        | some f => simp [hd, Outcome.drawn]
        | none =>
          simp only [hd, ih]
          rcases perform find a s' with ⟨⟨written, lookups, _ | e⟩, s''⟩ <;> simp

end CodeFrame
