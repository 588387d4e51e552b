import CodeFrame.Catalog.Desk
import CodeFrame.Proofs.Catalog

/-!
# Editions and registrations

The number of an edition tells which registration of which name it was built for. A number that was given to a name is
kept under this name and no other one, and only until the name is registered again (`Catalog.Gave`). Adding sources and
fetching keep this (`Catalog.Gave.add`, `Catalog.Gave.fetch`), and so does whatever a desk is asked
(`Desk.gave_serve`, `Desk.gave_serveAll`): whether a number still stands for its name can be told from the requests
alone.

Every number that is kept was given (`Catalog.Numbered`), since the numbers are given in order. Hence two lookups have one
edition exactly if no registration came between them (`Desk.editions_follow_registrations`).
-/

namespace CodeFrame

namespace Catalog

/-- The number of the edition that is kept under a name. -/
def kept? (c : Catalog) (name : Text) : Option Nat := (c.entryOf? name).bind fun e => e.edition.map Edition.number

variable {c : Catalog} {name : Text} {k : Nat} {P Q : Prop}

/-! ## What is kept -/

/-- An added source has no edition, the others keep theirs. -/
theorem kept?_add (c : Catalog) (name : Text) (source : SourceText) (name' : Text) :
    (c.add name source).kept? name' = if name = name' then none else c.kept? name' := by
  unfold kept?
  by_cases h : name = name'
  · subst h
    rw [entryOf?_add_same, if_pos rfl]
    rfl
  · rw [entryOf?_add_of_ne c source h, if_neg h]

/-- **What a lookup can do**: fail, return the edition that is kept, or keep and return one with the next number. -/
theorem fetch_cases (c : Catalog) (name : Text) :
    (∃ f, c.fetch name = (.error f, c)) ∨
    (∃ e, c.fetch name = (.ok e, c) ∧ c.kept? name = some e.number) ∨
    ∃ e c', c.fetch name = (.ok e, c') ∧ c.kept? name = none ∧ e.number = c.built ∧ c'.built = c.built + 1 ∧
      ∀ name', c'.kept? name' = if name = name' then some c.built else c.kept? name' := by
  cases he : c.entryOf? name with
  | none => exact Or.inl ⟨_, fetch_of_entryOf?_eq_none he⟩
  | some e =>
    cases hd : e.edition with
    | some d =>
      refine Or.inr (Or.inl ⟨d, fetch_of_edition he hd, ?_⟩)
      simp [kept?, he, hd]
    | none =>
      refine Or.inr (Or.inr ⟨_, _, fetch_of_no_edition he hd, ?_, rfl, rfl, fun name' => ?_⟩)
      · simp [kept?, he, hd]
      · unfold kept?
        rw [entryOf?_opened he]
        by_cases hn : name = name'
        · rw [if_pos hn, if_pos hn]
          rfl
        · rw [if_neg hn, if_neg hn]

/-! ## What was given -/

/-- The number was given to the name: it is kept there, unless the name was replaced, and under no other name. -/
structure Gave (c : Catalog) (name : Text) (k : Nat) (replaced : Prop) : Prop where
  lt_built : k < c.built
  kept_iff : ∀ other, c.kept? other = some k ↔ other = name ∧ ¬ replaced

/-- Every number that is kept was given to its name. -/
def Numbered (c : Catalog) : Prop := ∀ name k, c.kept? name = some k → c.Gave name k False

theorem Gave.congr (h : c.Gave name k P) (hPQ : P ↔ Q) : c.Gave name k Q where
  lt_built := h.lt_built
  kept_iff other := by rw [h.kept_iff, hPQ]

/-- Registering the name again ends what its number stood for. -/
theorem Gave.add (h : c.Gave name k P) (name' : Text) (source : SourceText) :
    (c.add name' source).Gave name k (P ∨ name' = name) where
  lt_built := h.lt_built
  kept_iff other := by
    rw [kept?_add]
    by_cases hn : name' = other
    · subst hn
      rw [if_pos rfl]
      refine iff_of_false nofun ?_
      rintro ⟨hname, hnot⟩
      exact hnot (Or.inr hname)
    · rw [if_neg hn, h.kept_iff, not_or]
      constructor
      · rintro ⟨rfl, hP⟩
        exact ⟨rfl, hP, hn⟩
      · rintro ⟨rfl, hP, -⟩
        exact ⟨rfl, hP⟩

/-- A lookup gives no number twice. -/
theorem Gave.fetch (h : c.Gave name k P) (name' : Text) : (c.fetch name').2.Gave name k P := by
  rcases fetch_cases c name' with ⟨f, hf⟩ | ⟨e, hf, -⟩ | ⟨e, c', hf, hnone, -, hbuilt, hkept⟩
  · rw [hf]
    exact h
  · rw [hf]
    exact h
  · rw [hf]
    have hlt := h.lt_built
    have hlt' : k < c'.built := by omega
    refine ⟨hlt', fun other => ?_⟩
    show c'.kept? other = some k ↔ other = name ∧ ¬ P
    rw [hkept]
    by_cases hn : name' = other
    · -- the number built now is a later one, and before there was none under this name
      subst hn
      have hother := h.kept_iff name'
      rw [hnone] at hother
      rw [if_pos rfl, Option.some.injEq, ← hother]
      refine iff_of_false ?_ nofun
      omega
    · rw [if_neg hn, h.kept_iff]

theorem Numbered.add (h : c.Numbered) (name' : Text) (source : SourceText) : (c.add name' source).Numbered := by
  intro name k hk
  rw [kept?_add] at hk
  by_cases hn : name' = name
  · rw [if_pos hn] at hk
    cases hk
  · rw [if_neg hn] at hk
    exact ((h name k hk).add name' source).congr (by simp [hn])

/-- A number is given to the name that was looked up. -/
theorem Numbered.gave (h : c.Numbered) {e : Edition} {c' : Catalog} (hf : c.fetch name = (.ok e, c')) :
    c'.Gave name e.number False := by
  rcases fetch_cases c name with ⟨f, hf'⟩ | ⟨e', hf', hkept⟩ | ⟨e', c'', hf', -, hnumber, hbuilt, hkept⟩
  · rw [hf] at hf'
    cases hf'
  · rw [hf] at hf'
    cases hf'
    exact h name e.number hkept
  · rw [hf] at hf'
    cases hf'
    rw [hnumber]
    refine ⟨by omega, fun other => ?_⟩
    rw [hkept]
    by_cases hn : name = other
    · simp [hn]
    · have hother : c.kept? other ≠ some c.built := fun hk => Nat.lt_irrefl _ (h other _ hk).lt_built
      have hn' : other ≠ name := fun e => hn e.symm
      simp [hn, hn', hother]

theorem Numbered.fetch (h : c.Numbered) (name' : Text) : (c.fetch name').2.Numbered := by
  intro name k hk
  rcases fetch_cases c name' with ⟨f, hf⟩ | ⟨e, hf, -⟩ | ⟨e, c', hf, -, hnumber, -, hkept⟩
  · rw [hf] at hk ⊢
    exact h name k hk
  · rw [hf] at hk ⊢
    exact h name k hk
  · have hgave := h.gave hf
    have hfetch : ∀ {k}, c.kept? name = some k → (c.fetch name').2.Gave name k False := fun hold =>
      (h name _ hold).fetch name'
    rw [hf] at hk hfetch ⊢
    rw [hkept] at hk
    by_cases hn : name' = name
    · rw [if_pos hn, Option.some.injEq] at hk
      rw [hn, hnumber, hk] at hgave
      exact hgave
    · rw [if_neg hn] at hk
      exact hfetch hk

/-- A lookup returns a number again exactly if it still stands for the name that is looked up. -/
theorem Gave.eq_number_iff (h : c.Gave name k P) {other : Text} {e : Edition} {c' : Catalog}
    (hf : c.fetch other = (.ok e, c')) : k = e.number ↔ name = other ∧ ¬ P := by
  have hreturned : c.kept? other = some k ↔ k = e.number := by
    rcases fetch_cases c other with ⟨f, hf'⟩ | ⟨e', hf', hkept⟩ | ⟨e', c'', hf', hnone, hnumber, -⟩
    · rw [hf] at hf'
      cases hf'
    · rw [hf] at hf'
      cases hf'
      rw [hkept, Option.some.injEq, eq_comm]
    · rw [hf] at hf'
      cases hf'
      have hlt := h.lt_built
      rw [hnone]
      refine iff_of_false nofun ?_
      omega
  rw [← hreturned, h.kept_iff, eq_comm]

/-- The sources of a list are numbered: none of them has an edition. -/
theorem numbered_foldl_add : ∀ (sources : List (Text × SourceText)) {c : Catalog}, c.Numbered →
    (sources.foldl (fun c (name, source) => c.add name source) c).Numbered
  | [], _, h => h
  | (name, source) :: rest, _, h => numbered_foldl_add rest (h.add name source)

theorem numbered_ofList (sources : List (Text × SourceText)) : (ofList sources).Numbered :=
  numbered_foldl_add sources nofun

end Catalog

namespace Desk

/-! ## At a desk -/

variable {d : Desk} {name : Text} {k : Nat} {P : Prop}

theorem catalog_serve_fetch (d : Desk) (name : Text) :
    (d.serve (.fetch name)).2.catalog = (d.catalog.fetch name).2 := by
  simp only [serve]
  rcases d.catalog.fetch name with ⟨f | e, c⟩ <;> rfl

/-- What a desk hands out is what its catalog returns. -/
theorem exists_fetch_of_edition (h : (d.serve (.fetch name)).1 = .edition k) :
    ∃ e, e.number = k ∧ d.catalog.fetch name = (.ok e, (d.serve (.fetch name)).2.catalog) := by
  rw [catalog_serve_fetch]
  simp only [serve] at h
  rcases hf : d.catalog.fetch name with ⟨f | e, c⟩ <;> rw [hf] at h
  · cases h
  · cases h
    exact ⟨e, rfl, rfl⟩

/-- **What a request does to the catalog**: it adds a source, looks one up, or leaves the catalog as it is. -/
theorem catalog_serve_cases (d : Desk) (r : Request) :
    (∃ name source, r = .add name source ∧ (d.serve r).2.catalog = d.catalog.add name source) ∨
    (∃ name, r = .fetch name ∧ (d.serve r).2.catalog = (d.catalog.fetch name).2) ∨
    ((∀ name source, r ≠ .add name source) ∧ (d.serve r).2.catalog = d.catalog) := by
  cases r with
  | add name source => exact Or.inl ⟨name, source, rfl, rfl⟩
  | fetch name => exact Or.inr (Or.inl ⟨name, rfl, catalog_serve_fetch d name⟩)
  | ask number query =>
    refine Or.inr (Or.inr ⟨nofun, ?_⟩)
    simp only [serve]
    cases d.issued[number]? <;> rfl
  | _ => exact Or.inr (Or.inr ⟨nofun, rfl⟩)

/-- A request ends what a number stood for exactly if it registers the name again. -/
theorem gave_serve (h : d.catalog.Gave name k P) (r : Request) :
    (d.serve r).2.catalog.Gave name k (P ∨ ∃ source, r = .add name source) := by
  rcases catalog_serve_cases d r with ⟨name', source, rfl, hc⟩ | ⟨name', rfl, hc⟩ | ⟨hr, hc⟩ <;> rw [hc]
  · exact (h.add name' source).congr (by simp)
  · exact (h.fetch name').congr (by simp)
  · exact h.congr (by simp [hr])

theorem numbered_serve (h : d.catalog.Numbered) (r : Request) : (d.serve r).2.catalog.Numbered := by
  rcases catalog_serve_cases d r with ⟨name', source, rfl, hc⟩ | ⟨name', rfl, hc⟩ | ⟨-, hc⟩ <;> rw [hc]
  · exact h.add name' source
  · exact h.fetch name'
  · exact h

/-- Requests end what a number stood for exactly if one of them registers the name again. -/
theorem gave_serveAll : ∀ (requests : List Request) {d : Desk} {P : Prop}, d.catalog.Gave name k P →
    (d.serveAll requests).2.catalog.Gave name k (P ∨ ∃ source, .add name source ∈ requests)
  | [], _, _, h => h.congr (by simp)
  | r :: rs, d, P, h => by
    have hrest := gave_serveAll rs (gave_serve h r)
    exact hrest.congr (by simp only [List.mem_cons, exists_or, or_assoc, eq_comm])

theorem numbered_serveAll : ∀ (requests : List Request) {d : Desk}, d.catalog.Numbered →
    (d.serveAll requests).2.catalog.Numbered
  | [], _, h => h
  | r :: rs, _, h => numbered_serveAll rs (numbered_serve h r)

/-- **Editions follow registrations.** At a desk with any history, two lookups that succeed have the same edition exactly
if they ask for one name and no request between them registers this name, be it with the same text: neither do the
registrations of other names count, nor lookups that are refused. -/
theorem editions_follow_registrations (sources : List (Text × SourceText)) (past between : List Request) {a b : Text}
    {k k' : Nat} :
    let d := ((ofList sources).serveAll past).2
    let d' := ((d.serve (.fetch a)).2.serveAll between).2
    (d.serve (.fetch a)).1 = .edition k → (d'.serve (.fetch b)).1 = .edition k' →
      (k = k' ↔ a = b ∧ ∀ source, .add a source ∉ between) := by
  intro d d' hk hk'
  obtain ⟨e, rfl, hf⟩ := exists_fetch_of_edition hk
  obtain ⟨e', rfl, hf'⟩ := exists_fetch_of_edition hk'
  have hnumbered : d.catalog.Numbered := numbered_serveAll past (Catalog.numbered_ofList sources)
  have hgave := gave_serveAll between (hnumbered.gave hf)
  rw [hgave.eq_number_iff hf', false_or, not_exists]

/-- Between two lookups of one source, another source is added and a lookup is refused; then the source is registered
again with its text. -/
theorem editions_of_registered_again :
    let sources : List (Text × SourceText) := [(['a'], { text := ['x'] })]
    let others : List Request := [.fetch ['z'], .add ['b'] { text := ['y'] }, .fetch ['b']]
    let again : List Request := [.add ['a'] { text := ['x'] }]
    let d := ((ofList sources).serveAll [.size]).2
    let after := fun requests => (((d.serve (.fetch ['a'])).2.serveAll requests).2.serve (.fetch ['a'])).1
    (d.serve (.fetch ['a'])).1 = .edition 0 ∧ after others = .edition 0 ∧ ∃ k, after again = .edition k ∧ k ≠ 0 := by
  intro sources others again d after
  have hfirst : (d.serve (.fetch ['a'])).1 = .edition 0 := rfl
  have hothers : ∃ k, after others = .edition k := ⟨_, rfl⟩
  have hagain : ∃ k, after again = .edition k := ⟨_, rfl⟩
  obtain ⟨k, hk⟩ := hothers
  obtain ⟨k', hk'⟩ := hagain
  have hkept := editions_follow_registrations sources [.size] others hfirst hk
  have hended := editions_follow_registrations sources [.size] again hfirst hk'
  refine ⟨hfirst, ?_, k', hk', ?_⟩
  · rw [hk, ← hkept.2 ⟨rfl, by simp [others]⟩]
  · rintro rfl
    exact (hended.1 rfl).2 { text := ['x'] } (by simp [again])

end Desk

end CodeFrame
