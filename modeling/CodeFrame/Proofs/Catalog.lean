import CodeFrame.Catalog
import CodeFrame.Proofs.Progress

/-!
# Catalogs without their editions

What can be asked of a catalog besides its editions: the names, and the text of a name (`Catalog.textOf?`). Adding a
source changes both as in a map that keeps the order of arrival (`Catalog.names_add`, `Catalog.textOf?_add`); fetching
changes neither (`Catalog.names_fetch`, `Catalog.textOf?_fetch`), and what is fetched is always the line table of the
current text (`Catalog.fetch_eq_ok`). As a finder, a catalog thus answers by its texts alone, and the editions that it
keeps do not show (`Catalog.find_follows`).

The positions in a registered text can be written, so a report fails only for want of a source
(`Catalog.failure_script_eq_none_iff`).
-/

namespace CodeFrame

/-- A kept edition holds the line table of the text it stands beside. -/
theorem Entry.table_eq {e : Entry} {d : Edition} (h : e.edition = some d) : d.table = LineTable.ofText e.text := by
  have htext : d.table.source = e.text := e.current d h
  rw [← htext]
  exact d.table.eq_ofText

namespace Catalog

/-- The text of a name. -/
def textOf? (c : Catalog) (name : Text) : Option Text := (c.entryOf? name).map Entry.text

variable {c : Catalog} {name : Text} {e : Entry}

/-! ## Names -/

theorem name_of_entryOf? (h : c.entryOf? name = some e) : e.name = name := by
  simpa using List.find?_some h

theorem mem_names_iff : name ∈ c.names ↔ (c.entryOf? name).isSome := by
  unfold names entryOf?
  rw [List.find?_isSome]
  simp

theorem contains_eq (c : Catalog) (name : Text) : c.contains name = decide (name ∈ c.names) := by
  rw [Bool.eq_iff_iff, decide_eq_true_eq, mem_names_iff]
  rfl

theorem size_eq (c : Catalog) : c.size = c.names.length := (List.length_map _).symm

/-- An entry keeps the place of its namesake. -/
theorem map_name_put (e : Entry) :
    ∀ l, (put e l).map Entry.name =
      if e.name ∈ l.map Entry.name then l.map Entry.name else l.map Entry.name ++ [e.name]
  | [] => by simp [put]
  | x :: xs => by
    by_cases hx : x.name = e.name
    · simp [put, hx]
    · have hx' : ¬ e.name = x.name := fun h => hx h.symm
      simp only [put, if_neg hx, List.map_cons, map_name_put e xs, List.mem_cons, hx', false_or]
      split <;> simp

/-- A new name comes last, a known one stays where it is. -/
theorem names_add (c : Catalog) (name : Text) (source : SourceText) :
    (c.add name source).names = if name ∈ c.names then c.names else c.names ++ [name] :=
  map_name_put { name, source, edition := none } c.entries

theorem names_put_of_entryOf? (h : c.entryOf? name = some e) {e' : Entry} (he : e'.name = e.name) :
    (put e' c.entries).map Entry.name = c.names := by
  have hmem : e'.name ∈ c.names := by
    rw [he, name_of_entryOf? h, mem_names_iff, h]
    rfl
  rw [map_name_put]
  exact if_pos hmem

/-! ## Texts -/

/-- The text added last counts, other names are not concerned. -/
theorem textOf?_add (c : Catalog) (name : Text) (source : SourceText) (name' : Text) :
    (c.add name source).textOf? name' = if name = name' then some source.text else c.textOf? name' := by
  unfold textOf?
  by_cases h : name = name'
  · subst h
    rw [entryOf?_add_same, if_pos rfl, Option.map_some]
    rfl
  · rw [entryOf?_add_of_ne c source h, if_neg h]

/-- The places of a registered text are few enough to be written as numerals. -/
theorem fits_of_textOf? {S : Text} (h : c.textOf? name = some S) : Text.Fits (S.length + 1) := by
  obtain ⟨e, -, rfl⟩ := Option.map_eq_some_iff.1 h
  exact e.source.fits

/-! ## Fetching -/

theorem fetch_of_edition {d : Edition} (h : c.entryOf? name = some e) (hd : e.edition = some d) :
    c.fetch name = (.ok d, c) := by
  simp [fetch, h, hd]

theorem fetch_of_no_edition (h : c.entryOf? name = some e) (hd : e.edition = none) :
    c.fetch name =
      (.ok ⟨c.built, LineTable.ofText e.text⟩, ⟨put (e.opened c.built) c.entries, c.built + 1⟩) := by
  simp [fetch, h, hd]

/-- The entries after an edition was built for one of them. -/
theorem entryOf?_opened (h : c.entryOf? name = some e) (number built : Nat) (name' : Text) :
    entryOf? ⟨put (e.opened number) c.entries, built⟩ name' =
      if name = name' then some (e.opened number) else c.entryOf? name' := by
  have hname : (e.opened number).name = name := (name_of_entryOf? h : e.name = name)
  unfold entryOf?
  by_cases hn : name = name'
  · subst hn
    have hsame := find?_put_same (e.opened number) c.entries
    rw [hname] at hsame
    rw [if_pos rfl, hsame]
  · rw [if_neg hn]
    exact find?_put_of_ne (by rwa [hname]) _

/-- Fetching leaves a catalog as it is, or opens the entry of the name. -/
theorem fetch_snd_cases (c : Catalog) (name : Text) :
    (c.fetch name).2 = c ∨
      ∃ e, c.entryOf? name = some e ∧ (c.fetch name).2 = ⟨put (e.opened c.built) c.entries, c.built + 1⟩ := by
  cases h : c.entryOf? name with
  | none => exact Or.inl (by rw [fetch_of_entryOf?_eq_none h])
  | some e =>
    cases hd : e.edition with
    | some d => exact Or.inl (by rw [fetch_of_edition h hd])
    | none => exact Or.inr ⟨e, rfl, by rw [fetch_of_no_edition h hd]⟩

/-- Fetching adds and removes no source. -/
theorem names_fetch (c : Catalog) (name : Text) : (c.fetch name).2.names = c.names := by
  rcases fetch_snd_cases c name with hc | ⟨e, h, hc⟩
  · rw [hc]
  · rw [hc]
    exact names_put_of_entryOf? h rfl

/-- Fetching changes no text. -/
theorem textOf?_fetch (c : Catalog) (name name' : Text) : (c.fetch name).2.textOf? name' = c.textOf? name' := by
  rcases fetch_snd_cases c name with hc | ⟨e, h, hc⟩
  · rw [hc]
  · rw [hc]
    unfold textOf?
    rw [entryOf?_opened h]
    by_cases hn : name = name'
    · subst hn
      rw [if_pos rfl, h]
      rfl
    · rw [if_neg hn]

/-- What is fetched is the line table of the current text, whether it was kept or is built now. -/
theorem fetch_eq_ok {S : Text} (h : c.textOf? name = some S) :
    ∃ number, (c.fetch name).1 = .ok ⟨number, LineTable.ofText S⟩ := by
  obtain ⟨e, he, rfl⟩ := Option.map_eq_some_iff.1 h
  cases hd : e.edition with
  | some d => exact ⟨d.number, by rw [fetch_of_edition he hd, ← Entry.table_eq hd]⟩
  | none => exact ⟨c.built, by rw [fetch_of_no_edition he hd]⟩

/-- A catalog answers as a finder with the line table of the current text. -/
theorem find_eq_ok {S : Text} (h : c.textOf? name = some S) :
    c.find name = (.ok (LineTable.ofText S).view, (c.fetch name).2) := by
  obtain ⟨number, hf⟩ := fetch_eq_ok h
  unfold find
  rw [← Prod.eta (c.fetch name), hf]

/-- A catalog has no answer for a name without a text, and stays as it is. -/
theorem find_eq_error (h : c.textOf? name = none) : c.find name = (.error (.unknownSource name), c) := by
  unfold textOf? at h
  unfold find
  rw [fetch_of_entryOf?_eq_none (Option.map_eq_none_iff.1 h)]

/-! ## A catalog as a finder -/

/-- What a catalog with the given texts answers. -/
def locate (texts : Text → Option Text) (name : Text) : Except Fault LineView :=
  match texts name with
  | some S => .ok (LineTable.ofText S).view
  | none => .error (.unknownSource name)

/-- A catalog answers for each of its names, with positions that can be written. -/
theorem exists_locate_eq_ok (h : name ∈ c.names) :
    ∃ S, locate c.textOf? name = .ok (LineTable.ofText S).view ∧
      ∀ offset, ((LineTable.ofText S).position offset).Fits := by
  obtain ⟨e, he⟩ := Option.isSome_iff_exists.1 (mem_names_iff.1 h)
  refine ⟨e.text, ?_, LineTable.position_fits e.source.fits⟩
  unfold locate textOf?
  rw [he]
  rfl

theorem mem_names_of_locate {v : LineView} (h : locate c.textOf? name = .ok v) : name ∈ c.names := by
  rw [mem_names_iff]
  cases he : c.entryOf? name with
  | some e => rfl
  | none =>
    unfold locate textOf? at h
    rw [he] at h
    cases h

theorem find_snd (c : Catalog) (name : Text) : (c.find name).2 = (c.fetch name).2 := by
  unfold find
  rcases c.fetch name with ⟨f | edition, c'⟩ <;> rfl

/-- A catalog answers by its texts alone, and answering does not change them. -/
theorem find_follows (texts : Text → Option Text) :
    Finder.Follows find (fun c => ∀ name, c.textOf? name = texts name) (locate texts) where
  answer c name hc := by
    have htext := hc name
    unfold locate
    cases h : texts name with
    | some S => rw [find_eq_ok (htext.trans h)]
    | none => rw [find_eq_error (htext.trans h)]
  stays c name hc name' := by rw [find_snd, textOf?_fetch, hc]

/-- With a catalog, a diagnostic is reported whole exactly if each of its sources is there. -/
theorem failure_script_eq_none_iff (c : Catalog) (l : Limits) (d : Diagnostic) :
    (perform find (d.script l) c).1.failure = none ↔ ∀ name ∈ d.sources, name ∈ c.names := by
  rw [(perform_of_follows (find_follows c.textOf?) (d.script l) fun _ => rfl).1, d.failure_script_eq_none_iff]
  constructor
  · intro h name hname
    obtain ⟨r, hr, hs⟩ := List.mem_filterMap.1 hname
    obtain ⟨v, hv, -⟩ := h r hr name hs
    exact mem_names_of_locate hv
  · intro h r hr name hs
    obtain ⟨S, hS, hfits⟩ := exists_locate_eq_ok (h name (List.mem_filterMap.2 ⟨r, hr, hs⟩))
    exact ⟨_, hS, hfits _⟩

end Catalog

end CodeFrame
