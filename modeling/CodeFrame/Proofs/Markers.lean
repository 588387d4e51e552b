import CodeFrame.Palette
import CodeFrame.Proofs.Controls

/-!
# Markers in painted text

A painted text is read from the left into characters and markers (`Ansi.read`); a marker is an escape character, a
bracket, and what follows up to the first `m`. If no run holds an escape character, reading gives back the runs
(`Ansi.read_paint`), so that

- without its markers the text is what the plain palette writes (`Ansi.unmarked_paint`);
- its markers turn a colour on and off in turn, once for each styled run, be it empty or not (`Ansi.stretches_paint`).
-/

namespace CodeFrame

namespace Ansi

/-! ## Reading -/

/-- What is read: a character, or a marker with its parameters. -/
inductive Token where
  | char (c : Char)
  | marker (parameters : Text)
  deriving DecidableEq

/-- The parameters of the marker at the front of a text, if there is one. -/
def markerAt? : Text → Option Text
  | c :: bracket :: t =>
    if c = escape ∧ bracket = '[' ∧ 'm' ∈ t then some (t.takeWhile (· ≠ 'm')) else none
  | _ => none

/-- Reads a text whose first characters, as many as `skip`, belong to a marker that was read before. -/
def readFrom : Nat → Text → List Token
  | _, [] => []
  | skip + 1, _ :: t => readFrom skip t
  | 0, c :: t =>
    match markerAt? (c :: t) with
    | some parameters => .marker parameters :: readFrom (parameters.length + 2) t
    | none => .char c :: readFrom 0 t

/-- Reads a text into characters and markers. -/
def read (t : Text) : List Token := readFrom 0 t

/-- The character that was read, unless it was a marker. -/
def Token.char? : Token → Option Char
  | .char c => some c
  | .marker _ => none

/-- The text with its markers deleted. -/
def unmarked (t : Text) : Text := (read t).filterMap Token.char?

theorem markerAt?_eq_none {c : Char} (h : c ≠ escape) : ∀ t, markerAt? (c :: t) = none
  | [] => rfl
  | _ :: _ => if_neg fun hm => h hm.1

theorem readFrom_length (s t : Text) : readFrom s.length (s ++ t) = read t := by
  induction s with
  | nil => rfl
  | cons c s ih => exact ih

/-- Text without an escape character is read as it is. -/
theorem read_append {s : Text} (h : escape ∉ s) (t : Text) : read (s ++ t) = s.map .char ++ read t := by
  induction s with
  | nil => rfl
  | cons c s ih =>
    obtain ⟨hc, hs⟩ := not_or.1 (fun hm => h (List.mem_cons.2 hm))
    have hnone : markerAt? (c :: (s ++ t)) = none := markerAt?_eq_none (fun heq => hc heq.symm) _
    calc read (c :: (s ++ t)) = .char c :: read (s ++ t) := by
          unfold read
          rw [readFrom, hnone]
      _ = .char c :: (s.map .char ++ read t) := by rw [ih hs]

/-- A marker is read up to its end, whatever follows. -/
theorem read_marker {parameters : Text} (h : 'm' ∉ parameters) (t : Text) :
    read (marker parameters ++ t) = .marker parameters :: read t := by
  have hall : ∀ c ∈ parameters, decide (c ≠ 'm') = true := fun c hc =>
    decide_eq_true fun heq => h (heq ▸ hc)
  have hat : markerAt? (escape :: '[' :: (parameters ++ 'm' :: t)) = some parameters := by
    rw [markerAt?, if_pos ⟨rfl, rfl, by simp⟩, List.takeWhile_append_of_pos hall,
      List.takeWhile_cons_of_neg (by simp), List.append_nil]
  have hskip := readFrom_length ('[' :: parameters ++ ['m']) t
  have hlength : ('[' :: parameters ++ ['m']).length = parameters.length + 2 := by simp
  rw [hlength] at hskip
  have htext : marker parameters ++ t = escape :: '[' :: (parameters ++ 'm' :: t) := by simp [marker]
  rw [htext, read, readFrom, hat, ← hskip]
  simp

/-! ## Runs -/

/-- The parameters that turn every colour off. -/
def off : Text := ['0']

/-- A stretch of text under a colour, with the parameters that turn the colour on. -/
structure Stretch where
  parameters : Text
  text : Text
  deriving DecidableEq

/-- What is read from a run. -/
def tokens : Run → List Token
  | .bare t => t.map .char
  | .styled role t => .marker (parameters role) :: t.map .char ++ [.marker off]

/-- The stretch that a run becomes, if it has a role. -/
def stretch? : Run → Option Stretch
  | .bare _ => none
  | .styled role t => some ⟨parameters role, t⟩

theorem notMem_parameters (role : Role) : 'm' ∉ parameters role := by
  cases role <;> decide

theorem parameters_ne_off (role : Role) : parameters role ≠ off := by
  cases role <;> decide

theorem read_run {r : Run} (h : escape ∉ r.text) (t : Text) :
    read (r.paint painter ++ t) = tokens r ++ read t := by
  cases r with
  | bare s => exact read_append h t
  | styled role s =>
    have hs : escape ∉ s := h
    have hpaint : Run.paint painter (.styled role s) ++ t = marker (parameters role) ++ (s ++ (marker off ++ t)) := by
      simp [Run.paint, painter, opening, reset, off]
    rw [hpaint, read_marker (notMem_parameters role), read_append hs, read_marker (by decide)]
    simp [tokens]

/-- **Reading gives back the runs** if none of them holds an escape character. -/
theorem read_paint : ∀ {runs : List Run}, (∀ r ∈ runs, escape ∉ r.text) →
    read (paint painter runs) = runs.flatMap tokens
  | [], _ => rfl
  | r :: rs, h => by
    obtain ⟨hr, hrs⟩ := List.forall_mem_cons.1 h
    rw [paint_cons, read_run hr, read_paint hrs, List.flatMap_cons]

theorem filterMap_char?_map (t : Text) : (t.map Token.char).filterMap Token.char? = t := by
  rw [List.filterMap_map]
  exact List.filterMap_some

theorem filterMap_char?_tokens (r : Run) : (tokens r).filterMap Token.char? = r.paint Palette.plain.painter := by
  cases r with
  | bare t => exact filterMap_char?_map t
  | styled role t =>
    rw [tokens, List.cons_append, List.filterMap_cons_none rfl, List.filterMap_append, filterMap_char?_map]
    exact List.append_nil t

/-- Without its markers, coloured text is plain text. -/
theorem unmarked_paint {runs : List Run} (h : ∀ r ∈ runs, escape ∉ r.text) :
    unmarked (paint painter runs) = paint Palette.plain.painter runs := by
  unfold unmarked paint
  rw [← paint, read_paint h, List.filterMap_flatMap]
  congr 1
  funext r
  exact filterMap_char?_tokens r

/-! ## Stretches of colour -/

/-- The stretches of text under a colour, read from the left; the first argument is the stretch that is being read, if a
colour is on. There is no answer if a colour is turned on under another one, if a colour is turned off where none is
on, or if a colour is left on at the end. -/
def stretches : Option Stretch → List Token → Option (List Stretch)
  | none, [] => some []
  | some _, [] => none
  | none, .char _ :: ts => stretches none ts
  | some s, .char c :: ts => stretches (some { s with text := s.text ++ [c] }) ts
  | none, .marker parameters :: ts => if parameters = off then none else stretches (some ⟨parameters, []⟩) ts
  | some s, .marker parameters :: ts => if parameters = off then (stretches none ts).map (s :: ·) else none

theorem stretches_chars (t : Text) (ts : List Token) : stretches none (t.map .char ++ ts) = stretches none ts := by
  induction t with
  | nil => rfl
  | cons c t ih => exact ih

theorem stretches_some_chars (t : Text) (ts : List Token) (s : Stretch) :
    stretches (some s) (t.map .char ++ ts) = stretches (some { s with text := s.text ++ t }) ts := by
  induction t generalizing s with
  | nil => simp
  | cons c t ih =>
    rw [List.map_cons, List.cons_append, stretches, ih]
    simp

/-- A styled run is a stretch of its own, even if it is empty. -/
theorem stretches_tokens (r : Run) (ts : List Token) :
    stretches none (tokens r ++ ts) = (stretches none ts).map ((stretch? r).toList ++ ·) := by
  cases r with
  | bare t =>
    rw [tokens, stretches_chars]
    simp [stretch?]
  | styled role t =>
    rw [tokens, List.cons_append, List.cons_append, List.append_assoc, List.singleton_append, stretches,
      if_neg (parameters_ne_off role), stretches_some_chars, stretches, if_pos rfl]
    simp [stretch?]

/-- **Colours are turned on and off in turn**, once for each run that has a role. -/
theorem stretches_paint {runs : List Run} (h : ∀ r ∈ runs, escape ∉ r.text) :
    stretches none (read (paint painter runs)) = some (runs.filterMap stretch?) := by
  rw [read_paint h]
  clear h
  induction runs with
  | nil => rfl
  | cons r rs ih =>
    rw [List.flatMap_cons, stretches_tokens, ih, List.filterMap_cons]
    cases stretch? r <;> rfl

end Ansi

end CodeFrame
