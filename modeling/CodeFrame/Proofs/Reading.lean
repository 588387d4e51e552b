import CodeFrame.Proofs.Words
import CodeFrame.Value.Reader

/-!
# Reading any value

What a reader by parts takes for the related places of a value, told by rules on values instead of its functions: which
parts a value has (`Value.Has`), in which value it looks (`Value.LooksIn`), which values have nothing to them
(`Value.Hollow`), what a value yields when it is gone through (`Value.Yields`), and which of the items stand for a related
place (`Value.IsPair`, `Related.StandsFor`, `Related.Entries`). Each rule is what the function of the model computes
(`Value.has_iff`, `Value.hasContent_eq_false_iff`, `Value.yields_iff`, `Related.standsFor_iff`,
`Related.Entries.ofValues_eq`).

There is one answer for every value (`Reader.related_eq_iff`), and it is the only thing that a reading can fail for
(`Reader.related_of_any_value`): whatever the other parts of the value are, they are read or passed over.
-/

namespace CodeFrame

namespace Value

/-! ## Rules on values -/

/-- The attributes hold a value under a name; the first one of the name counts. -/
inductive Holds : List (Text × Value) → Text → Value → Prop
  | here {name : Text} {v : Value} {rest : List (Text × Value)} : Holds ((name, v) :: rest) name v
  | there {name name' : Text} {v w : Value} {rest : List (Text × Value)} (hn : name' ≠ name)
      (h : Holds rest name v) : Holds ((name', w) :: rest) name v

/-- **The parts of a value.** Objects and exceptions have what they hold under the name of the part. A diagnostic has its
fields, of which one that is missing is the value of nothing; a related place has its location; and whatever this
library raises has a diagnostic, or nothing in its place. No other value has a part. -/
inductive Has : Value → Part → Value → Prop
  | object {attributes : List (Text × Value)} {p : Part} {w : Value} (h : Holds attributes p.name w) :
      Has (.object attributes) p w
  | exception {attributes : List (Text × Value)} {p : Part} {w : Value} (h : Holds attributes p.name w) :
      Has (.exception attributes) p w
  | primary {d : Diagnostic} {s : Span} (h : d.primary = some s) : Has (.diagnostic d) .primary (.span s)
  | noPrimary {d : Diagnostic} (h : d.primary = none) : Has (.diagnostic d) .primary .nothing
  | comment {d : Diagnostic} {t : Text} (h : d.comment = some t) : Has (.diagnostic d) .comment (.text t)
  | noComment {d : Diagnostic} (h : d.comment = none) : Has (.diagnostic d) .comment .nothing
  | related (d : Diagnostic) : Has (.diagnostic d) .related (.tuple (d.related.map .related))
  | severity (d : Diagnostic) : Has (.diagnostic d) .severity (.severity d.severity)
  | place (r : Related) : Has (.related r) .place (.span r.location)
  | carrying (d : Diagnostic) : Has (.raised (.carrying d)) .diagnostic (.diagnostic d)
  | words (t : Text) : Has (.raised (.words t)) .diagnostic .nothing
  | missingSource (name : Text) : Has (.raised (.missingSource name)) .diagnostic .nothing

/-- There is nothing to these values. A stream is none of them, even if it yields nothing. -/
inductive Hollow : Value → Prop
  | nothing : Hollow .nothing
  | no : Hollow (.bool false)
  | zero : Hollow (.int 0)
  | text : Hollow (.text [])
  | list : Hollow (.list [])
  | tuple : Hollow (.tuple [])
  | mapping : Hollow (.mapping [])
  | bytes : Hollow (.bytes [])

/-- A value that is gone through yields these items; the other kinds of values cannot be gone through. -/
inductive Yields : Value → List Value → Prop
  | text (t : Text) : Yields (.text t) (t.map fun c => .text [c])
  | severity (s : Severity) : Yields (.severity s) (s.name.map fun c => .text [c])
  | list (items : List Value) : Yields (.list items) items
  | tuple (items : List Value) : Yields (.tuple items) items
  | stream (items : List Value) : Yields (.stream items) items
  | mapping (entries : List (Value × Value)) : Yields (.mapping entries) (entries.map Prod.fst)
  | bytes (content : List UInt8) : Yields (.bytes content) (content.map fun b => .int b.toNat)

/-- A severity is a text as well. -/
inductive IsText : Value → Prop
  | text (t : Text) : IsText (.text t)
  | severity (s : Severity) : IsText (.severity s)

/-- The value in which a diagnostic is looked for: a diagnostic itself, or the one that a value carries, or else the
value. -/
inductive LooksIn : Value → Value → Prop
  | itself (d : Diagnostic) : LooksIn (.diagnostic d) (.diagnostic d)
  | carried {v : Value} {d : Diagnostic} (hv : ∀ d', v ≠ .diagnostic d') (h : v.Has .diagnostic (.diagnostic d)) :
      LooksIn v (.diagnostic d)
  | bare {v : Value} (hv : ∀ d, v ≠ .diagnostic d) (h : ∀ d, ¬ v.Has .diagnostic (.diagnostic d)) : LooksIn v v

variable {v t w : Value} {items : List Value}

theorem holds_iff {name : Text} : ∀ {attributes : List (Text × Value)},
    Holds attributes name w ↔ attributes.lookup name = some w
  | [] => ⟨nofun, nofun⟩
  | (name', w') :: rest => by
    by_cases hn : name' = name
    · subst hn
      rw [List.lookup_cons_self, Option.some.injEq]
      constructor
      · intro h
        cases h with
        | here => rfl
        | there hn => exact absurd rfl hn
      · rintro rfl
        exact .here
    · have hne : (name == name') = false := beq_eq_false_iff_ne.2 fun h => hn h.symm
      rw [List.lookup_cons, hne, ← holds_iff]
      constructor
      · intro h
        cases h with
        | here => exact absurd rfl hn
        | there _ h => exact h
      · exact .there hn

theorem has_iff {p : Part} : v.Has p w ↔ v.part? p = some w := by
  constructor
  · intro h
    cases h with
    | object h | exception h => exact holds_iff.1 h
    | primary h | noPrimary h | comment h | noComment h =>
      simp only [part?, h]
      rfl
    | _ => rfl
  · intro h
    cases v with
    | object attributes => exact .object (holds_iff.2 h)
    | exception attributes => exact .exception (holds_iff.2 h)
    | related r => cases p <;> cases h; exact .place r
    | raised r =>
      cases p <;> cases h
      cases r with
      | words t => exact .words t
      | carrying d => exact .carrying d
      | missingSource name => exact .missingSource name
    | diagnostic d =>
      cases p <;> cases h
      · cases hd : d.primary with
        | none => exact .noPrimary hd
        | some s => exact .primary hd
      · cases hd : d.comment with
        | none => exact .noComment hd
        | some t => exact .comment hd
      · exact .related d
      · exact .severity d
    | _ => cases h

theorem hasContent_eq_false_iff : v.hasContent = false ↔ v.Hollow := by
  constructor
  · intro h
    cases v with
    | nothing => exact .nothing
    | bool b =>
      cases b with
      | false => exact .no
      | true => cases h
    | int n =>
      obtain rfl : n = 0 := by simpa [hasContent] using h
      exact .zero
    | text t =>
      obtain rfl : t = [] := by simpa [hasContent] using h
      exact .text
    | list items =>
      obtain rfl : items = [] := by simpa [hasContent] using h
      exact .list
    | tuple items =>
      obtain rfl : items = [] := by simpa [hasContent] using h
      exact .tuple
    | mapping entries =>
      obtain rfl : entries = [] := by simpa [hasContent] using h
      exact .mapping
    | bytes content =>
      obtain rfl : content = [] := by simpa [hasContent] using h
      exact .bytes
    | _ => cases h
  · intro h
    cases h <;> rfl

theorem yields_iff : v.Yields items ↔ v.elements? = some items := by
  constructor
  · intro h
    cases h <;> rfl
  · intro h
    cases v with
    | text t => cases h; exact .text t
    | severity s => cases h; exact .severity s
    | list items => cases h; exact .list items
    | tuple items => cases h; exact .tuple items
    | stream items => cases h; exact .stream items
    | mapping entries => cases h; exact .mapping entries
    | bytes content => cases h; exact .bytes content
    | _ => cases h

theorem LooksIn.target_eq (h : v.LooksIn t) : v.target = t := by
  cases h with
  | itself d => rfl
  | carried hv h =>
    unfold target
    split
    · next d' => exact absurd rfl (hv d')
    · rw [has_iff.1 h]
  | bare hv h =>
    unfold target
    split
    · next d' => exact absurd rfl (hv d')
    · split
      · next d' hd => exact absurd (has_iff.2 hd) (h d')
      · rfl

theorem looksIn_target (v : Value) : v.LooksIn v.target := by
  unfold target
  split
  · next d => exact .itself d
  · next hv =>
    split
    · next d hd => exact .carried hv (has_iff.2 hd)
    · next hd => exact .bare hv fun d h => hd d (has_iff.1 h)

/-- A pair: the item yields two values, the second of which is a span. A text is never a pair. -/
def IsPair (v message : Value) (location : Span) : Prop := ¬ v.IsText ∧ v.Yields [message, .span location]

/-- A pair whose message says nothing. -/
def Unsaid (v : Value) : Prop := ∃ message location, v.IsPair message location ∧ ∀ t, ¬ message.Says t

end Value

namespace Related

open Value

/-! ## Items -/

/-- An item stands for a related place: for itself, or as a pair of a message that says something and a span. -/
inductive StandsFor : Value → Related → Prop
  | itself (r : Related) : StandsFor (.related r) r
  | pair {v message : Value} {location : Span} {t : Text} (hv : v.IsPair message location) (ht : message.Says t) :
      StandsFor v ⟨t, location⟩

/-- The related places for which items stand, in their order; the other items are passed over. There are none if the
message of a pair says nothing. -/
inductive Entries : List Value → List Related → Prop
  | nil : Entries [] []
  | take {v : Value} {r : Related} {vs : List Value} {rs : List Related} (h : StandsFor v r) (hs : Entries vs rs) :
      Entries (v :: vs) (r :: rs)
  | skip {v : Value} {vs : List Value} {rs : List Related} (h : ∀ r, ¬ StandsFor v r) (hv : ¬ v.Unsaid)
      (hs : Entries vs rs) : Entries (v :: vs) rs

variable {v message : Value} {location : Span} {r : Related} {items : List Value} {rs : List Related}

theorem ofValue?_of_isPair (h : v.IsPair message location) :
    ofValue? v = do return some ⟨← message.words, location⟩ := by
  obtain ⟨hv, hy⟩ := h
  have he := yields_iff.1 hy
  cases v with
  | text t => exact absurd (.text t) hv
  | severity s => exact absurd (.severity s) hv
  | related r => cases he
  | _ => simp only [ofValue?, he]

/-- **What an item can be**: a related place, a pair, or neither of them. -/
theorem ofValue?_cases (v : Value) :
    (∃ r, v = .related r) ∨ (∃ message location, v.IsPair message location) ∨
      ofValue? v = .ok none ∧ (∀ r, v ≠ .related r) ∧ ∀ message location, ¬ v.IsPair message location := by
  by_cases hp : ∃ message location, v.IsPair message location
  · exact Or.inr (Or.inl hp)
  · have hp' : ∀ message location, ¬ v.IsPair message location := fun message location h => hp ⟨message, location, h⟩
    cases v with
    | related r => exact Or.inl ⟨r, rfl⟩
    | text t => exact Or.inr (Or.inr ⟨rfl, nofun, hp'⟩)
    | severity s => exact Or.inr (Or.inr ⟨rfl, nofun, hp'⟩)
    | _ =>
      refine Or.inr (Or.inr ⟨?_, nofun, hp'⟩)
      simp only [ofValue?]
      split
      · next message location hy => exact absurd ⟨nofun, yields_iff.2 hy⟩ (hp' message location)
      · rfl

theorem standsFor_iff : StandsFor v r ↔ ofValue? v = .ok (some r) := by
  constructor
  · intro h
    cases h with
    | itself r => rfl
    | pair hv ht =>
      rw [ofValue?_of_isPair hv]
      exact bind_eq_ok_iff.2 ⟨_, says_iff.1 ht, rfl⟩
  · intro h
    rcases ofValue?_cases v with ⟨r', rfl⟩ | ⟨message, location, hp⟩ | ⟨hnone, -, -⟩
    · cases h
      exact .itself r
    · rw [ofValue?_of_isPair hp] at h
      obtain ⟨t, ht, hr⟩ := bind_eq_ok_iff.1 h
      cases hr
      exact .pair hp (says_iff.2 ht)
    · rw [hnone] at h
      cases h

/-- An item is refused if it is a pair whose message says nothing. -/
theorem ofValue?_eq_error_iff {f : Fault} : ofValue? v = .error f ↔ f = .numeralTooLong ∧ v.Unsaid := by
  rcases ofValue?_cases v with ⟨r, rfl⟩ | ⟨message, location, hp⟩ | ⟨hnone, -, hp⟩
  · refine iff_of_false nofun ?_
    rintro ⟨-, message, location, ⟨-, hy⟩, -⟩
    cases hy
  · have hunsaid : v.Unsaid ↔ ∀ t, ¬ message.Says t := by
      refine ⟨?_, fun h => ⟨message, location, hp, h⟩⟩
      rintro ⟨message', location', hp', h⟩
      have hitems := (yields_iff.1 hp'.2).symm.trans (yields_iff.1 hp.2)
      cases hitems
      exact h
    rw [hunsaid, ← words_eq_error_iff, ofValue?_of_isPair hp, bind_eq_error_iff]
    refine or_iff_left ?_
    rintro ⟨_, -, h⟩
    cases h
  · rw [hnone]
    refine iff_of_false nofun ?_
    rintro ⟨-, message, location, hp', -⟩
    exact hp message location hp'

theorem ofValue?_eq_none (h : ∀ r, ¬ StandsFor v r) (hv : ¬ v.Unsaid) : ofValue? v = .ok none := by
  cases hr : ofValue? v with
  | error f => exact absurd (ofValue?_eq_error_iff.1 hr).2 hv
  | ok r =>
    cases r with
    | none => rfl
    | some r => exact absurd (standsFor_iff.2 hr) (h r)

theorem Entries.ofValues_eq (h : Entries items rs) : ofValues items = .ok rs := by
  induction h with
  | nil => rfl
  | take h _ ih => exact bind_eq_ok_iff.2 ⟨_, standsFor_iff.1 h, bind_eq_ok_iff.2 ⟨_, ih, rfl⟩⟩
  | skip h hv _ ih => exact bind_eq_ok_iff.2 ⟨_, ofValue?_eq_none h hv, bind_eq_ok_iff.2 ⟨_, ih, rfl⟩⟩

theorem entries_of_ofValues : ∀ {items : List Value} {rs : List Related}, ofValues items = .ok rs → Entries items rs
  | [], rs, h => by
    cases h
    exact .nil
  | v :: vs, rs, h => by
    obtain ⟨first, hv, h⟩ := bind_eq_ok_iff.1 h
    obtain ⟨rest, hvs, h⟩ := bind_eq_ok_iff.1 h
    cases h
    have hentries := entries_of_ofValues hvs
    cases first with
    | some r => exact .take (standsFor_iff.2 hv) hentries
    | none =>
      refine .skip (fun r hr => ?_) (fun hu => ?_) hentries
      · rw [standsFor_iff.1 hr] at hv
        cases hv
      · rw [ofValue?_eq_error_iff.2 ⟨rfl, hu⟩] at hv
        cases hv

/-- Items are refused if one of them is. -/
theorem ofValues_eq_error_iff {f : Fault} :
    ofValues items = .error f ↔ f = .numeralTooLong ∧ ∃ v ∈ items, v.Unsaid := by
  induction items with
  | nil =>
    refine iff_of_false nofun ?_
    rintro ⟨-, v, hv, -⟩
    cases hv
  | cons v vs ih =>
    unfold ofValues
    rw [bind_eq_error_iff, ofValue?_eq_error_iff]
    simp only [bind_eq_error_iff, ih, List.exists_mem_cons_iff]
    constructor
    · rintro (⟨rfl, hv⟩ | ⟨_, -, ⟨rfl, hvs⟩ | ⟨_, -, h⟩⟩)
      · exact ⟨rfl, Or.inl hv⟩
      · exact ⟨rfl, Or.inr hvs⟩
      · cases h
    · rintro ⟨rfl, hv | hvs⟩
      · exact Or.inl ⟨rfl, hv⟩
      · -- if the first item is not refused, a later one is
        cases hfirst : ofValue? v with
        | error f => exact Or.inl ⟨rfl, (ofValue?_eq_error_iff.1 hfirst).2⟩
        | ok first => exact Or.inr ⟨first, rfl, Or.inl ⟨rfl, hvs⟩⟩

end Related

namespace Reader

open Value

/-! ## The related places of a value -/

/-- What is read for the related places in a value: none if there is no such part or nothing to it, a refusal if the part
cannot be gone through or a message in it says nothing, and otherwise what its items stand for. -/
inductive Answers (t : Value) : Except Fault (List Related) → Prop
  | missing (h : ∀ part, ¬ t.Has .related part) : Answers t (.ok [])
  | hollow {part : Value} (h : t.Has .related part) (hp : part.Hollow) : Answers t (.ok [])
  | refused {part : Value} (h : t.Has .related part) (hp : ¬ part.Hollow) (hy : ∀ items, ¬ part.Yields items) :
      Answers t (.error .notIterable)
  | unsaid {part item : Value} {items : List Value} (h : t.Has .related part) (hp : ¬ part.Hollow)
      (hy : part.Yields items) (hi : item ∈ items) (hu : item.Unsaid) : Answers t (.error .numeralTooLong)
  | entries {part : Value} {items : List Value} {rs : List Related} (h : t.Has .related part)
      (hp : ¬ part.Hollow) (hy : part.Yields items) (he : Related.Entries items rs) : Answers t (.ok rs)

variable {v t : Value} {answer : Except Fault (List Related)}

theorem hasContent_of_not_hollow (h : ¬ v.Hollow) : v.hasContent = true := by
  rw [← hasContent_eq_false_iff, Bool.not_eq_false] at h
  exact h

theorem elements?_of_not_yields (h : ∀ items, ¬ v.Yields items) : v.elements? = none :=
  Option.eq_none_iff_forall_ne_some.2 fun items hitems => h items (yields_iff.2 hitems)

theorem related_of_has {part : Value} (hv : v.LooksIn t) (h : t.Has .related part) :
    byPart.related v = relatedOf part := by
  unfold byPart
  dsimp only
  rw [hv.target_eq, has_iff.1 h]

theorem relatedOf_of_hollow (h : v.Hollow) : relatedOf v = .ok [] := by
  simp [relatedOf, hasContent_eq_false_iff.2 h]

theorem relatedOf_of_not_yields (h : ¬ v.Hollow) (hy : ∀ items, ¬ v.Yields items) :
    relatedOf v = .error .notIterable := by
  simp [relatedOf, hasContent_of_not_hollow h, elements?_of_not_yields hy]

theorem relatedOf_of_yields {items : List Value} (h : ¬ v.Hollow) (hy : v.Yields items) :
    relatedOf v = Related.ofValues items := by
  simp [relatedOf, hasContent_of_not_hollow h, yields_iff.1 hy]

/-- The rules give the answer of the reader. -/
theorem related_of_answers (hv : v.LooksIn t) (h : Answers t answer) : byPart.related v = answer := by
  cases h with
  | missing h =>
    have hnone : t.part? .related = none :=
      Option.eq_none_iff_forall_ne_some.2 fun part hpart => h part (has_iff.2 hpart)
    unfold byPart
    dsimp only
    rw [hv.target_eq, hnone]
  | hollow h hp => rw [related_of_has hv h, relatedOf_of_hollow hp]
  | refused h hp hy => rw [related_of_has hv h, relatedOf_of_not_yields hp hy]
  | unsaid h hp hy hi hu =>
    rw [related_of_has hv h, relatedOf_of_yields hp hy]
    exact Related.ofValues_eq_error_iff.2 ⟨rfl, _, hi, hu⟩
  | entries h hp hy he => rw [related_of_has hv h, relatedOf_of_yields hp hy, he.ofValues_eq]

/-- There is a rule for every value. -/
theorem exists_answers (t : Value) : ∃ answer, Answers t answer := by
  by_cases h : ∃ part, t.Has .related part
  · obtain ⟨part, h⟩ := h
    by_cases hp : part.Hollow
    · exact ⟨_, .hollow h hp⟩
    · by_cases hy : ∃ items, part.Yields items
      · obtain ⟨items, hy⟩ := hy
        cases he : Related.ofValues items with
        | ok rs => exact ⟨_, .entries h hp hy (Related.entries_of_ofValues he)⟩
        | error f =>
          obtain ⟨-, item, hi, hu⟩ := Related.ofValues_eq_error_iff.1 he
          exact ⟨_, .unsaid h hp hy hi hu⟩
      · exact ⟨_, .refused h hp fun items hitems => hy ⟨items, hitems⟩⟩
  · exact ⟨_, .missing fun part hpart => h ⟨part, hpart⟩⟩

theorem related_eq_iff : byPart.related v = answer ↔ ∃ t, v.LooksIn t ∧ Answers t answer := by
  constructor
  · rintro rfl
    obtain ⟨answer, h⟩ := exists_answers v.target
    rw [related_of_answers v.looksIn_target h]
    exact ⟨v.target, v.looksIn_target, h⟩
  · rintro ⟨t, hv, h⟩
    exact related_of_answers hv h

/-- The part for the related places is refused: there is something to it, but it cannot be gone through. -/
def Refuses (v : Value) : Prop :=
  ∃ t part, v.LooksIn t ∧ t.Has .related part ∧ ¬ part.Hollow ∧ ∀ items, ¬ part.Yields items

/-- A pair in the part for the related places has a message that says nothing. -/
def LeavesUnsaid (v : Value) : Prop :=
  ∃ t part items item, v.LooksIn t ∧ t.Has .related part ∧ ¬ part.Hollow ∧ part.Yields items ∧ item ∈ items ∧ item.Unsaid

theorem related_eq_error_iff {f : Fault} :
    byPart.related v = .error f ↔ f = .notIterable ∧ Refuses v ∨ f = .numeralTooLong ∧ LeavesUnsaid v := by
  rw [related_eq_iff]
  constructor
  · rintro ⟨t, hv, h⟩
    cases h with
    | refused h hp hy => exact Or.inl ⟨rfl, t, _, hv, h, hp, hy⟩
    | unsaid h hp hy hi hu => exact Or.inr ⟨rfl, t, _, _, _, hv, h, hp, hy, hi, hu⟩
  · rintro (⟨rfl, t, part, hv, h, hp, hy⟩ | ⟨rfl, t, part, items, item, hv, h, hp, hy, hi, hu⟩)
    · exact ⟨t, hv, .refused h hp hy⟩
    · exact ⟨t, hv, .unsaid h hp hy hi hu⟩

end Reader

namespace Diagnostic

variable {r : Reader} {v : Value} {name : Text}

/-- A diagnostic is read from a value exactly if the related places are; they alone can be refused. -/
theorem ofValue_eq_error_iff {f : Fault} : ofValue r v name = .error f ↔ r.related v = .error f := by
  unfold ofValue
  cases r.related v <;> simp

theorem ofValue_eq_ok_iff {d : Diagnostic} :
    ofValue r v name = .ok d ↔
      d.name = name ∧ d.comment = r.comment v ∧ d.primary = r.primary v ∧ r.related v = .ok d.related ∧
        d.severity = r.severity v := by
  obtain ⟨name', comment, primary, related, severity⟩ := d
  unfold ofValue
  cases r.related v with
  | error f => simp
  | ok related' =>
    simp only [Except.ok.injEq, mk.injEq]
    constructor
    · rintro ⟨rfl, rfl, rfl, rfl, rfl⟩
      exact ⟨rfl, rfl, rfl, rfl, rfl⟩
    · rintro ⟨rfl, rfl, rfl, rfl, rfl⟩
      exact ⟨rfl, rfl, rfl, rfl, rfl⟩

end Diagnostic

/-- **What becomes a related place.** Of every value, the related places are those that the rules give, and the rules give
one answer. A diagnostic is read from every value but those whose part for the related places cannot be gone through, and
those in which the message of a pair has no words; whatever the other parts are, the comment, the primary place and the
severity are read from it. -/
theorem Reader.related_of_any_value (v : Value) (name : Text) :
    (∀ answer, byPart.related v = answer ↔ ∃ t, v.LooksIn t ∧ Answers t answer) ∧
    (∀ f, Diagnostic.ofValue byPart v name = .error f ↔
      f = .notIterable ∧ Refuses v ∨ f = .numeralTooLong ∧ LeavesUnsaid v) ∧
    ∀ d, Diagnostic.ofValue byPart v name = .ok d ↔
      d.name = name ∧ d.comment = byPart.comment v ∧ d.primary = byPart.primary v ∧
        byPart.related v = .ok d.related ∧ d.severity = byPart.severity v := by
  refine ⟨fun answer => related_eq_iff, fun f => ?_, fun d => Diagnostic.ofValue_eq_ok_iff⟩
  rw [Diagnostic.ofValue_eq_error_iff, related_eq_error_iff]

end CodeFrame
