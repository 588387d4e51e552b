import Mathlib.Data.List.Forall2
import CodeFrame.Value.Words

/-!
# The words of a value, by rules

How a value is written among others (`Value.Writes`), and what its words are if it stands alone (`Value.Says`), told by
rules. A number is written if its numeral is not too long, a list if each of its items is, and so on; a value that cannot
be written has no words. The rules are what the functions of the model compute (`Value.writes_iff`, `Value.says_iff`), and
the only cause of a refusal is a numeral that is too long (`Value.words_eq_error_iff`).
-/

namespace CodeFrame

open Text

/-! ## Computations that may be refused -/

section Refused

variable {α β : Type} {x : Except Fault α} {f : α → Except Fault β} {b : β}

/-- A computation after another one gives what it gives for the result of the first. -/
theorem bind_eq_ok_iff : (do let a ← x; f a) = .ok b ↔ ∃ a, x = .ok a ∧ f a = .ok b := by
  cases x with
  | error e => exact iff_of_false nofun fun ⟨_, ha, _⟩ => nomatch ha
  | ok a => exact ⟨fun h => ⟨a, rfl, h⟩, fun ⟨_, ha, h⟩ => by cases ha; exact h⟩

/-- It is refused if the first computation is, or for the result of the first. -/
theorem bind_eq_error_iff {e : Fault} :
    (do let a ← x; f a) = .error e ↔ x = .error e ∨ ∃ a, x = .ok a ∧ f a = .error e := by
  cases x with
  | error e' =>
    constructor
    · intro h
      cases h
      exact Or.inl rfl
    · rintro (h | ⟨_, ha, _⟩)
      · cases h
        rfl
      · cases ha
  | ok a =>
    refine ⟨fun h => Or.inr ⟨a, rfl, h⟩, ?_⟩
    rintro (h | ⟨_, ha, h⟩)
    · cases h
    · cases ha
      exact h

theorem numeral_eq_ok_iff {n : Int} {t : Text} : numeral n = .ok t ↔ Fits n ∧ t = decimal n := by
  by_cases h : Fits n
  · rw [numeral_of_fits h, Except.ok.injEq, and_iff_right h, eq_comm]
  · rw [numeral_of_not_fits h]
    exact iff_of_false nofun fun hn => h hn.1

/-- If the computation is refused, then for a numeral that is too long. -/
def NeedsNumerals (x : Except Fault α) : Prop := ∀ f, x = .error f → f = .numeralTooLong

theorem NeedsNumerals.pure (a : α) : NeedsNumerals (Pure.pure a : Except Fault α) := nofun

theorem NeedsNumerals.bind (hx : NeedsNumerals x) (hf : ∀ a, NeedsNumerals (f a)) :
    NeedsNumerals (do let a ← x; f a) := by
  cases x with
  | error e =>
    intro g hg
    cases hg
    exact hx e rfl
  | ok a => exact hf a

theorem needsNumerals_numeral (n : Int) : NeedsNumerals (numeral n) := by
  intro f h
  by_cases hn : Fits n
  · rw [numeral_of_fits hn] at h
    cases h
  · rw [numeral_of_not_fits hn] at h
    cases h
    rfl

end Refused

/-! ## What belongs to this library -/

/-- A span is written if both of its places can be. -/
inductive Span.Writes : Span → Text → Prop
  | places {s : Span} (hstart : Fits s.start) (hstop : Fits s.stop) :
      Writes s (labelled "SourceSpan".toList [("source_name".toList, quotedOr s.source),
        ("start".toList, decimal s.start), ("end".toList, decimal s.stop)])

/-- A span that is not there is written as the value of nothing. -/
inductive Span.WritesOr : Option Span → Text → Prop
  | none : WritesOr none "None".toList
  | some {s : Span} {t : Text} (h : s.Writes t) : WritesOr (some s) t

/-- A related place is written if its span is. -/
inductive Related.Writes : Related → Text → Prop
  | location {r : Related} {t : Text} (h : r.location.Writes t) :
      Writes r (labelled "SecondaryLocation".toList
        [("message".toList, r.message.quoted), ("location".toList, t)])

/-- A diagnostic is written if its primary place and each of its related places can be. -/
inductive Diagnostic.Writes : Diagnostic → Text → Prop
  | fields {d : Diagnostic} {primary : Text} {related : List Text} (hprimary : Span.WritesOr d.primary primary)
      (hrelated : List.Forall₂ Related.Writes d.related related) :
      Writes d (labelled "DiagnosticRecord".toList
        [("name".toList, d.name.quoted), ("comment".toList, quotedOr d.comment),
          ("primary_location".toList, primary), ("secondary_locations".toList, tupled related),
          ("severity".toList, d.severity.written)])

section Written

variable {t : Text}

theorem Span.writes_iff {s : Span} : s.Writes t ↔ s.written = .ok t := by
  unfold written
  simp only [bind_eq_ok_iff, numeral_eq_ok_iff]
  constructor
  · rintro ⟨hstart, hstop⟩
    exact ⟨_, ⟨hstart, rfl⟩, _, ⟨hstop, rfl⟩, rfl⟩
  · rintro ⟨_, ⟨hstart, rfl⟩, _, ⟨hstop, rfl⟩, h⟩
    cases h
    exact .places hstart hstop

theorem Span.writesOr_iff : ∀ {s : Option Span}, Span.WritesOr s t ↔ Span.writtenOr s = .ok t
  | none => ⟨fun h => by cases h; rfl, fun h => by cases h; exact .none⟩
  | some _ => ⟨fun h => by cases h with | some h => exact writes_iff.1 h, fun h => .some (writes_iff.2 h)⟩

theorem Related.writes_iff {r : Related} : r.Writes t ↔ r.written = .ok t := by
  unfold written
  simp only [bind_eq_ok_iff]
  constructor
  · rintro ⟨h⟩
    exact ⟨_, Span.writes_iff.1 h, rfl⟩
  · rintro ⟨_, h, hr⟩
    cases hr
    exact .location (Span.writes_iff.2 h)

theorem Related.forall₂_writes_iff : ∀ {rs : List Related} {ts : List Text},
    List.Forall₂ Related.Writes rs ts ↔ writtenAll rs = .ok ts
  | [], ts => ⟨fun h => by cases h; rfl, fun h => by cases h; exact .nil⟩
  | r :: rs, ts => by
    unfold writtenAll
    simp only [bind_eq_ok_iff]
    constructor
    · rintro (_ | ⟨hr, hrs⟩)
      exact ⟨_, writes_iff.1 hr, _, forall₂_writes_iff.1 hrs, rfl⟩
    · rintro ⟨_, hr, _, hrs, h⟩
      cases h
      exact .cons (writes_iff.2 hr) (forall₂_writes_iff.2 hrs)

theorem Diagnostic.writes_iff {d : Diagnostic} : d.Writes t ↔ d.written = .ok t := by
  unfold written
  simp only [bind_eq_ok_iff]
  constructor
  · rintro ⟨hprimary, hrelated⟩
    exact ⟨_, Span.writesOr_iff.1 hprimary, _, Related.forall₂_writes_iff.1 hrelated, rfl⟩
  · rintro ⟨_, hprimary, _, hrelated, h⟩
    cases h
    exact .fields (Span.writesOr_iff.2 hprimary) (Related.forall₂_writes_iff.2 hrelated)

theorem Span.needsNumerals_written (s : Span) : NeedsNumerals s.written :=
  (needsNumerals_numeral _).bind fun _ => (needsNumerals_numeral _).bind fun _ => .pure _

theorem Span.needsNumerals_writtenOr : ∀ s : Option Span, NeedsNumerals (writtenOr s)
  | none => .pure _
  | some s => s.needsNumerals_written

theorem Related.needsNumerals_written (r : Related) : NeedsNumerals r.written :=
  r.location.needsNumerals_written.bind fun _ => .pure _

theorem Related.needsNumerals_writtenAll : ∀ rs : List Related, NeedsNumerals (writtenAll rs)
  | [] => .pure _
  | r :: rs => r.needsNumerals_written.bind fun _ => (needsNumerals_writtenAll rs).bind fun _ => .pure _

theorem Diagnostic.needsNumerals_written (d : Diagnostic) : NeedsNumerals d.written :=
  (Span.needsNumerals_writtenOr d.primary).bind fun _ =>
    (Related.needsNumerals_writtenAll d.related).bind fun _ => .pure _

end Written

/-! ## Values -/

namespace Value

mutual

/-- **How a value is written among others.** -/
inductive Writes : Value → Text → Prop
  | nothing : Writes .nothing "None".toList
  | yes : Writes (.bool true) "True".toList
  | no : Writes (.bool false) "False".toList
  | int {n : Int} (h : Fits n) : Writes (.int n) (decimal n)
  | text (t : Text) : Writes (.text t) t.quoted
  | severity (s : Severity) : Writes (.severity s) s.written
  | list {items : List Value} {ts : List Text} (h : WritesAll items ts) : Writes (.list items) (enclosed '[' ']' ts)
  | tuple {items : List Value} {ts : List Text} (h : WritesAll items ts) : Writes (.tuple items) (tupled ts)
  | stream (items : List Value) : Writes (.stream items) "<stream>".toList
  | mapping {entries : List (Value × Value)} {ts : List Text} (h : WritesEntries entries ts) :
      Writes (.mapping entries) (enclosed '\x7b' '\x7d' ts)
  | bytes (content : List UInt8) : Writes (.bytes content) (quotedBytes content)
  | span {s : Span} {t : Text} (h : s.Writes t) : Writes (.span s) t
  | related {r : Related} {t : Text} (h : r.Writes t) : Writes (.related r) t
  | diagnostic {d : Diagnostic} {t : Text} (h : d.Writes t) : Writes (.diagnostic d) t
  | raised (r : Raised) : Writes (.raised r) r.written
  | object (attributes : List (Text × Value)) : Writes (.object attributes) "<object>".toList
  | exception (attributes : List (Text × Value)) : Writes (.exception attributes) "<exception>".toList

/-- The values of a list, each as it is written. -/
inductive WritesAll : List Value → List Text → Prop
  | nil : WritesAll [] []
  | cons {v : Value} {t : Text} {vs : List Value} {ts : List Text} (h : Writes v t) (hs : WritesAll vs ts) :
      WritesAll (v :: vs) (t :: ts)

/-- The entries of a mapping, each as its key and its value are written. -/
inductive WritesEntries : List (Value × Value) → List Text → Prop
  | nil : WritesEntries [] []
  | cons {k v : Value} {s t : Text} {rest : List (Value × Value)} {ts : List Text} (hk : Writes k s)
      (hv : Writes v t) (hs : WritesEntries rest ts) : WritesEntries ((k, v) :: rest) ((s ++ ": ".toList ++ t) :: ts)

end

/-- The values with words of their own: a text says itself, a diagnostic its headline, and what was raised its words, of
which an exception of another kind has none. -/
inductive Tells : Value → Text → Prop
  | text (t : Text) : Tells (.text t) t
  | severity (s : Severity) : Tells (.severity s) s.name
  | diagnostic (d : Diagnostic) : Tells (.diagnostic d) d.headline
  | raised (r : Raised) : Tells (.raised r) r.text
  | exception (attributes : List (Text × Value)) : Tells (.exception attributes) []

/-- **What a value says if it stands alone**: its own words, or else what is written for it among others. -/
inductive Says : Value → Text → Prop
  | told {v : Value} {t : Text} (h : v.Tells t) : Says v t
  | written {v : Value} {t : Text} (hv : ∀ t', ¬ v.Tells t') (h : v.Writes t) : Says v t

/-! ## The functions follow the rules -/

mutual

theorem Writes.written_eq : ∀ {v : Value} {t : Text}, v.Writes t → v.written = .ok t
  | _, _, .nothing | _, _, .yes | _, _, .no | _, _, .text _ | _, _, .severity _ | _, _, .stream _ | _, _, .bytes _
  | _, _, .raised _ | _, _, .object _ | _, _, .exception _ => rfl
  | _, _, .int h => numeral_of_fits h
  | _, _, .list h => bind_eq_ok_iff.2 ⟨_, h.writtenAll_eq, rfl⟩
  | _, _, .tuple h => bind_eq_ok_iff.2 ⟨_, h.writtenAll_eq, rfl⟩
  | _, _, .mapping h => bind_eq_ok_iff.2 ⟨_, h.writtenEntries_eq, rfl⟩
  | _, _, .span h => Span.writes_iff.1 h
  | _, _, .related h => Related.writes_iff.1 h
  | _, _, .diagnostic h => Diagnostic.writes_iff.1 h

theorem WritesAll.writtenAll_eq : ∀ {vs : List Value} {ts : List Text}, WritesAll vs ts → writtenAll vs = .ok ts
  | _, _, .nil => rfl
  | _, _, .cons h hs => bind_eq_ok_iff.2 ⟨_, h.written_eq, bind_eq_ok_iff.2 ⟨_, hs.writtenAll_eq, rfl⟩⟩

theorem WritesEntries.writtenEntries_eq : ∀ {entries : List (Value × Value)} {ts : List Text},
    WritesEntries entries ts → writtenEntries entries = .ok ts
  | _, _, .nil => rfl
  | _, _, .cons hk hv hs => bind_eq_ok_iff.2 ⟨_, hk.written_eq, bind_eq_ok_iff.2 ⟨_, hv.written_eq,
      bind_eq_ok_iff.2 ⟨_, hs.writtenEntries_eq, rfl⟩⟩⟩

end

mutual

theorem writes_of_written : ∀ {v : Value} {t : Text}, v.written = .ok t → v.Writes t
  | .nothing, _, h => by cases h; exact .nothing
  | .bool true, _, h => by cases h; exact .yes
  | .bool false, _, h => by cases h; exact .no
  | .int n, _, h => by
    obtain ⟨hn, rfl⟩ := numeral_eq_ok_iff.1 h
    exact .int hn
  | .text t, _, h => by cases h; exact .text t
  | .severity s, _, h => by cases h; exact .severity s
  | .list items, _, h => by
    obtain ⟨ts, hts, h⟩ := bind_eq_ok_iff.1 h
    cases h
    exact .list (writesAll_of_writtenAll hts)
  | .tuple items, _, h => by
    obtain ⟨ts, hts, h⟩ := bind_eq_ok_iff.1 h
    cases h
    exact .tuple (writesAll_of_writtenAll hts)
  | .stream items, _, h => by cases h; exact .stream items
  | .mapping entries, _, h => by
    obtain ⟨ts, hts, h⟩ := bind_eq_ok_iff.1 h
    cases h
    exact .mapping (writesEntries_of_writtenEntries hts)
  | .bytes content, _, h => by cases h; exact .bytes content
  | .span s, _, h => .span (Span.writes_iff.2 h)
  | .related r, _, h => .related (Related.writes_iff.2 h)
  | .diagnostic d, _, h => .diagnostic (Diagnostic.writes_iff.2 h)
  | .raised r, _, h => by cases h; exact .raised r
  | .object attributes, _, h => by cases h; exact .object attributes
  | .exception attributes, _, h => by cases h; exact .exception attributes

theorem writesAll_of_writtenAll : ∀ {vs : List Value} {ts : List Text}, writtenAll vs = .ok ts → WritesAll vs ts
  | [], _, h => by cases h; exact .nil
  | v :: vs, _, h => by
    obtain ⟨t, hv, h⟩ := bind_eq_ok_iff.1 h
    obtain ⟨ts, hvs, h⟩ := bind_eq_ok_iff.1 h
    cases h
    exact .cons (writes_of_written hv) (writesAll_of_writtenAll hvs)

theorem writesEntries_of_writtenEntries : ∀ {entries : List (Value × Value)} {ts : List Text},
    writtenEntries entries = .ok ts → WritesEntries entries ts
  | [], _, h => by cases h; exact .nil
  | (k, v) :: rest, _, h => by
    obtain ⟨s, hk, h⟩ := bind_eq_ok_iff.1 h
    obtain ⟨t, hv, h⟩ := bind_eq_ok_iff.1 h
    obtain ⟨ts, hrest, h⟩ := bind_eq_ok_iff.1 h
    cases h
    exact .cons (writes_of_written hk) (writes_of_written hv) (writesEntries_of_writtenEntries hrest)

end

theorem writes_iff {v : Value} {t : Text} : v.Writes t ↔ v.written = .ok t := ⟨Writes.written_eq, writes_of_written⟩

/-- The words of a value are what it says. -/
theorem says_iff {v : Value} {t : Text} : v.Says t ↔ v.words = .ok t := by
  constructor
  · intro h
    cases h with
    | told h => cases h <;> rfl
    | written hv h =>
      cases v with
      | text t => exact absurd (.text t) (hv _)
      | severity s => exact absurd (.severity s) (hv _)
      | diagnostic d => exact absurd (.diagnostic d) (hv _)
      | raised r => exact absurd (.raised r) (hv _)
      | exception attributes => exact absurd (.exception attributes) (hv _)
      | _ => exact writes_iff.1 h
  · intro h
    cases v with
    | text t => cases h; exact .told (.text t)
    | severity s => cases h; exact .told (.severity s)
    | diagnostic d => cases h; exact .told (.diagnostic d)
    | raised r => cases h; exact .told (.raised r)
    | exception attributes => cases h; exact .told (.exception attributes)
    | _ => exact .written nofun (writes_iff.2 h)

mutual

theorem needsNumerals_written : ∀ v : Value, NeedsNumerals v.written
  | .nothing | .bool _ | .text _ | .severity _ | .stream _ | .bytes _ | .raised _ | .object _ | .exception _ => .pure _
  | .int n => needsNumerals_numeral n
  | .list items | .tuple items => (needsNumerals_writtenAll items).bind fun _ => .pure _
  | .mapping entries => (needsNumerals_writtenEntries entries).bind fun _ => .pure _
  | .span s => s.needsNumerals_written
  | .related r => r.needsNumerals_written
  | .diagnostic d => d.needsNumerals_written

theorem needsNumerals_writtenAll : ∀ vs : List Value, NeedsNumerals (writtenAll vs)
  | [] => .pure _
  | v :: vs => (needsNumerals_written v).bind fun _ => (needsNumerals_writtenAll vs).bind fun _ => .pure _

theorem needsNumerals_writtenEntries : ∀ entries : List (Value × Value), NeedsNumerals (writtenEntries entries)
  | [] => .pure _
  | (k, v) :: rest => (needsNumerals_written k).bind fun _ => (needsNumerals_written v).bind fun _ =>
      (needsNumerals_writtenEntries rest).bind fun _ => .pure _

end

theorem needsNumerals_words (v : Value) : NeedsNumerals v.words := by
  cases v with
  | text | severity | diagnostic | raised | exception => exact .pure _
  | _ => exact needsNumerals_written _

/-- A value without words is refused, for a numeral that is too long. -/
theorem words_eq_error_iff {v : Value} {f : Fault} : v.words = .error f ↔ f = .numeralTooLong ∧ ∀ t, ¬ v.Says t := by
  cases h : v.words with
  | ok t =>
    refine iff_of_false nofun ?_
    rintro ⟨-, hsilent⟩
    exact hsilent t (says_iff.2 h)
  | error e =>
    obtain rfl := needsNumerals_words v e h
    have hsilent : ∀ t, ¬ v.Says t := by
      intro t ht
      rw [says_iff, h] at ht
      cases ht
    rw [Except.error.injEq, and_iff_left hsilent, eq_comm]

end Value

end CodeFrame
