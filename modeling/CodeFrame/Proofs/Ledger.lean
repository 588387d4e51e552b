import CodeFrame.Catalog.Desk
import CodeFrame.Proofs.Catalog

/-!
# A desk against a ledger

A `Ledger` remembers every source that was ever registered, and the text behind every line table that was handed out. It
keeps no line tables: whatever it is asked, it reads off the text (`Ledger.Serves`). A desk answers as its ledger does,
request by request (`Desk.serve_keeps`), although it holds only the current texts and builds each line table once
(`replies_of_serveAll`). The caller's own sources are a map of names to texts, apart from all of this.

What ties the two (`Desk.Keeps`): the same names in the same order, the same text under each name, every edition that is
kept was handed out under its number, and the same texts of the caller.
-/

namespace CodeFrame

/-! ## Texts in a list of sources -/

section TextIn

variable (sources : List (Text × SourceText)) (name : Text)

theorem textIn?_append (others : List (Text × SourceText)) :
    textIn? (sources ++ others) name = (textIn? others name).or (textIn? sources name) := by
  unfold textIn?
  rw [List.reverse_append, List.lookup_append]
  cases others.reverse.lookup name <;> rfl

theorem textIn?_singleton (name' : Text) (source : SourceText) :
    textIn? [(name', source)] name = if name' = name then some source.text else none := by
  unfold textIn?
  rw [List.reverse_singleton, List.lookup_cons, List.lookup_nil]
  by_cases h : name' = name
  · simp [h]
  · have h' : (name == name') = false := beq_eq_false_iff_ne.2 fun e => h e.symm
    rw [h', if_neg h]
    rfl

/-- The source added last counts. -/
theorem textIn?_concat (name' : Text) (source : SourceText) :
    textIn? (sources ++ [(name', source)]) name = if name' = name then some source.text else textIn? sources name := by
  rw [textIn?_append, textIn?_singleton]
  split <;> rfl

theorem textIn?_eq_none_iff : textIn? sources name = none ↔ ∀ source, (name, source) ∉ sources := by
  unfold textIn?
  rw [Option.map_eq_none_iff, List.lookup_eq_none_iff]
  constructor
  · intro h source hmem
    have := h (name, source) (List.mem_reverse.2 hmem)
    simp at this
  · intro h p hp
    rw [bne_iff_ne]
    rintro rfl
    exact h p.2 (List.mem_reverse.1 hp)

/-- A source that was removed is there no more, the others are. -/
theorem textIn?_filter (name' : Text) :
    textIn? (sources.filter (·.1 ≠ name')) name = if name' = name then none else textIn? sources name := by
  induction sources with
  | nil => split <;> rfl
  | cons p rest ih =>
    have hcons : ∀ l, textIn? (p :: l) name = (textIn? l name).or (if p.1 = name then some p.2.text else none) := fun l => by
      rw [← List.singleton_append, textIn?_append, textIn?_singleton]
    rw [List.filter_cons, hcons rest]
    by_cases hp : p.1 = name'
    · rw [if_neg (by simpa using hp), ih]
      by_cases hn : name' = name
      · rw [if_pos hn, if_pos hn]
      · rw [if_neg hn, if_neg hn, if_neg fun h => hn (hp.symm.trans h), Option.or_none]
    · rw [if_pos (by simpa using hp), hcons, ih]
      by_cases hn : name' = name
      · rw [if_pos hn, if_pos hn, if_neg fun h => hp (h.trans hn.symm)]
        rfl
      · rw [if_neg hn, if_neg hn]

end TextIn

/-! ## Ledgers -/

/-- What was registered, the first source first, the texts whose line tables were handed out, and the caller's texts. -/
structure Ledger where
  registered : List (Text × SourceText)
  issued : List Text
  own : Text → Option Text

namespace Ledger

/-- Every registered name once, in the order of their first registration. -/
def names (g : Ledger) : List Text := (g.registered.map Prod.fst).eraseDups

/-- The text registered last under a name. -/
def textOf? (g : Ledger) (name : Text) : Option Text := textIn? g.registered name

/-- The ledger of some sources of a caller, before anything was handed out. -/
def ofList (sources : List (Text × SourceText)) : Ledger := ⟨sources, [], textIn? sources⟩

/-- The ledger after a source was registered. -/
def register (g : Ledger) (name : Text) (source : SourceText) : Ledger :=
  { g with registered := g.registered ++ [(name, source)] }

/-- The ledger after the line table of a text was handed out. -/
def issue (g : Ledger) (text : Text) : Ledger := { g with issued := g.issued ++ [text] }

/-- The ledger after the caller changed one of their own entries. -/
def changeOwn (g : Ledger) (name : Text) (text : Option Text) : Ledger :=
  { g with own := fun name' => if name = name' then text else g.own name' }

/-- **What a request may be answered**, and what the ledger says afterwards. Only the number under which a line table is
handed out is left open: it may be one that already stands for the same text. -/
inductive Serves (g : Ledger) : Desk.Request → Desk.Reply → Ledger → Prop
  | add (name : Text) (source : SourceText) : Serves g (.add name source) .done (g.register name source)
  | refuse {name : Text} (h : g.textOf? name = none) : Serves g (.fetch name) (.refused (.unknownSource name)) g
  | again {name text : Text} {number : Nat} (h : g.textOf? name = some text) (hn : g.issued[number]? = some text) :
      Serves g (.fetch name) (.edition number) g
  | first {name text : Text} (h : g.textOf? name = some text) :
      Serves g (.fetch name) (.edition g.issued.length) (g.issue text)
  | ask {text : Text} {number : Nat} (hn : g.issued[number]? = some text) (query : LineTable.Query) :
      Serves g (.ask number query) (.answer ((LineTable.ofText text).answer query)) g
  | unissued {number : Nat} (hn : g.issued[number]? = none) (query : LineTable.Query) :
      Serves g (.ask number query) .unissued g
  | contains (name : Text) : Serves g (.contains name) (.flag (decide (name ∈ g.names))) g
  | size : Serves g .size (.count g.names.length) g
  | names : Serves g .names (.names g.names) g
  | iterate : Serves g .iterate (.names g.names) g
  | setOwn (name : Text) (source : SourceText) :
      Serves g (.setOwn name source) .done (g.changeOwn name (some source.text))
  | dropOwn (name : Text) : Serves g (.dropOwn name) .done (g.changeOwn name none)
  | lookOwn (name : Text) : Serves g (.lookOwn name) (.own (g.own name)) g

/-- Requests answered one after another. -/
inductive ServesAll : Ledger → List Desk.Request → List Desk.Reply → Ledger → Prop
  | nil (g : Ledger) : ServesAll g [] [] g
  | cons {g g₁ g₂ : Ledger} {r : Desk.Request} {rs : List Desk.Request} {reply : Desk.Reply}
      {replies : List Desk.Reply} (h : g.Serves r reply g₁) (hs : ServesAll g₁ rs replies g₂) :
      ServesAll g (r :: rs) (reply :: replies) g₂

/-! ## One more registration -/

theorem mem_names_iff {g : Ledger} {name : Text} : name ∈ g.names ↔ name ∈ g.registered.map Prod.fst :=
  List.mem_eraseDups

theorem names_register (g : Ledger) (name : Text) (source : SourceText) :
    (g.register name source).names = if name ∈ g.names then g.names else g.names ++ [name] := by
  unfold register
  by_cases h : name ∈ g.names
  · rw [if_pos h]
    simp [names, List.eraseDups_append, List.removeAll, mem_names_iff.1 h]
  · have h' : name ∉ g.registered.map Prod.fst := fun hm => h (mem_names_iff.2 hm)
    rw [if_neg h]
    simp [names, List.eraseDups_append, List.eraseDups_cons, List.removeAll, h']

theorem textOf?_register (g : Ledger) (name : Text) (source : SourceText) (name' : Text) :
    (g.register name source).textOf? name' = if name = name' then some source.text else g.textOf? name' :=
  textIn?_concat g.registered name' name source

/-- What is registered in the end was there at first or was added since. -/
theorem ServesAll.mem_registered_iff {g g' : Ledger} {requests : List Desk.Request} {replies : List Desk.Reply}
    (h : g.ServesAll requests replies g') {name : Text} {source : SourceText} :
    (name, source) ∈ g'.registered ↔ (name, source) ∈ g.registered ∨ Desk.Request.add name source ∈ requests := by
  induction h with
  | nil g => simp
  | cons hr _ ih =>
    rw [ih]
    cases hr <;> simp [register, issue, changeOwn, or_assoc]

end Ledger

namespace Desk

/-- A desk and its caller hold what the ledger says, and the desk keeps no edition that was not handed out. -/
structure Keeps (d : Desk) (g : Ledger) : Prop where
  names : d.catalog.names = g.names
  texts : ∀ name, d.catalog.textOf? name = g.textOf? name
  issued : d.issued = g.issued.map LineTable.ofText
  built : d.catalog.built = d.issued.length
  editions : ∀ name e k, d.catalog.entryOf? name = some e → e.edition = some k →
    d.issued[k.number]? = some k.table
  own : ∀ name, textIn? d.own name = g.own name

variable {d : Desk} {g : Ledger}

theorem Keeps.issued_get (h : d.Keeps g) (number : Nat) :
    d.issued[number]? = g.issued[number]?.map LineTable.ofText := by
  rw [h.issued, List.getElem?_map]

theorem Keeps.length_issued (h : d.Keeps g) : d.issued.length = g.issued.length := by
  rw [h.issued, List.length_map]

/-- A kept edition was handed out under its number, for the text it stands beside. -/
theorem Keeps.issued_edition (h : d.Keeps g) {name : Text} {e : Entry} {k : Edition}
    (he : d.catalog.entryOf? name = some e) (hk : e.edition = some k) : g.issued[k.number]? = some e.text := by
  have hget := h.editions name e k he hk
  rw [h.issued_get, Entry.table_eq hk] at hget
  obtain ⟨text, htext, heq⟩ := Option.map_eq_some_iff.1 hget
  rw [htext]
  exact congrArg (some ∘ LineTable.source) heq

/-- A registration keeps a desk and its ledger together. -/
theorem Keeps.register (h : d.Keeps g) (name : Text) (source : SourceText) :
    Keeps { d with catalog := d.catalog.add name source } (g.register name source) where
  names := by rw [Catalog.names_add, Ledger.names_register, h.names]
  texts name' := by rw [Catalog.textOf?_add, Ledger.textOf?_register, h.texts]
  issued := h.issued
  built := h.built
  editions name' e k he hk := by
    by_cases hn : name = name'
    · -- the new entry has no edition yet
      subst hn
      rw [Catalog.entryOf?_add_same] at he
      cases he
      cases hk
    · rw [Catalog.entryOf?_add_of_ne _ _ hn] at he
      exact h.editions name' e k he hk
  own := h.own

/-- A change of the caller's own sources reaches nothing else. -/
theorem Keeps.changeOwn (h : d.Keeps g) {own : List (Text × SourceText)} {name : Text} {text : Option Text}
    (hown : ∀ name', textIn? own name' = if name = name' then text else textIn? d.own name') :
    Keeps { d with own } (g.changeOwn name text) where
  names := h.names
  texts := h.texts
  issued := h.issued
  built := h.built
  editions := h.editions
  own name' := by
    rw [hown, h.own]
    rfl

/-- Building an edition and handing it out keeps a desk and its ledger together. -/
theorem Keeps.issue (h : d.Keeps g) {name : Text} {e : Entry} (he : d.catalog.entryOf? name = some e)
    (hk : e.edition = none) :
    Keeps { d with catalog := (d.catalog.fetch name).2, issued := d.issued ++ [LineTable.ofText e.text] }
      (g.issue e.text) where
  names := by rw [Catalog.names_fetch]; exact h.names
  texts name' := by rw [Catalog.textOf?_fetch]; exact h.texts name'
  issued := by
    unfold Ledger.issue
    rw [List.map_append, ← h.issued]
    rfl
  built := by
    rw [Catalog.fetch_of_no_edition he hk, List.length_append, ← h.built]
    rfl
  editions name' e' k he' hk' := by
    rw [Catalog.fetch_of_no_edition he hk, Catalog.entryOf?_opened he] at he'
    by_cases hn : name = name'
    · -- its number is the next free one, as many were built as were handed out
      rw [if_pos hn] at he'
      cases he'
      cases hk'
      rw [h.built]
      exact List.getElem?_concat_length
    · -- the editions handed out before keep their numbers
      rw [if_neg hn] at he'
      have hget := h.editions name' e' k he' hk'
      rw [List.getElem?_append_left (List.getElem?_eq_some_iff.1 hget).1]
      exact hget
  own := h.own

theorem serve_fetch_unknown {name : Text} (he : d.catalog.entryOf? name = none) :
    d.serve (.fetch name) = (.refused (.unknownSource name), d) := by
  simp only [serve, Catalog.fetch_of_entryOf?_eq_none he]

theorem serve_fetch_kept (h : d.Keeps g) {name : Text} {e : Entry} {k : Edition}
    (he : d.catalog.entryOf? name = some e) (hk : e.edition = some k) :
    d.serve (.fetch name) = (.edition k.number, d) := by
  have hlt : k.number < d.issued.length := (List.getElem?_eq_some_iff.1 (h.editions name e k he hk)).1
  simp only [serve, Catalog.fetch_of_edition he hk, if_pos hlt]

theorem serve_fetch_built (h : d.Keeps g) {name : Text} {e : Entry} (he : d.catalog.entryOf? name = some e)
    (hk : e.edition = none) :
    d.serve (.fetch name) =
      (.edition g.issued.length,
        { d with catalog := (d.catalog.fetch name).2, issued := d.issued ++ [LineTable.ofText e.text] }) := by
  simp only [serve, Catalog.fetch_of_no_edition he hk, h.built, h.length_issued, Nat.lt_irrefl, if_false]

/-- Exactly the names without a text are refused, and a refusal changes nothing. -/
theorem serve_fetch_eq_refused_iff (h : d.Keeps g) (name : Text) :
    d.serve (.fetch name) = (.refused (.unknownSource name), d) ↔ g.textOf? name = none := by
  rw [← h.texts, Catalog.textOf?, Option.map_eq_none_iff]
  constructor
  · intro hs
    cases he : d.catalog.entryOf? name with
    | none => rfl
    | some e =>
      cases hk : e.edition with
      | some k => rw [serve_fetch_kept h he hk] at hs; cases hs
      | none => rw [serve_fetch_built h he hk] at hs; cases hs
  · exact serve_fetch_unknown

/-- **One request**: a desk answers as its ledger does. -/
theorem serve_keeps (h : d.Keeps g) (r : Request) : ∃ g', g.Serves r (d.serve r).1 g' ∧ (d.serve r).2.Keeps g' := by
  cases r with
  | add name source => exact ⟨_, .add name source, h.register name source⟩
  | fetch name =>
    have htext := h.texts name
    unfold Catalog.textOf? at htext
    cases he : d.catalog.entryOf? name with
    | none =>
      rw [he] at htext
      rw [serve_fetch_unknown he]
      exact ⟨g, .refuse htext.symm, h⟩
    | some e =>
      rw [he] at htext
      cases hk : e.edition with
      | some k =>
        rw [serve_fetch_kept h he hk]
        exact ⟨g, .again htext.symm (h.issued_edition he hk), h⟩
      | none =>
        rw [serve_fetch_built h he hk]
        exact ⟨_, .first htext.symm, h.issue he hk⟩
  | ask number query =>
    have hget := h.issued_get number
    cases hn : g.issued[number]? with
    | none =>
      rw [hn] at hget
      simp only [serve, hget, Option.map_none]
      exact ⟨g, .unissued hn query, h⟩
    | some text =>
      rw [hn] at hget
      simp only [serve, hget, Option.map_some]
      exact ⟨g, .ask hn query, h⟩
  | contains name =>
    refine ⟨g, ?_, h⟩
    simp only [serve, Catalog.contains_eq, h.names]
    exact .contains name
  | size =>
    refine ⟨g, ?_, h⟩
    simp only [serve, Catalog.size_eq, h.names]
    exact .size
  | names =>
    refine ⟨g, ?_, h⟩
    simp only [serve, h.names]
    exact .names
  | iterate =>
    refine ⟨g, ?_, h⟩
    simp only [serve, h.names]
    exact .iterate
  | setOwn name source =>
    exact ⟨_, .setOwn name source, h.changeOwn fun name' => textIn?_concat d.own name' name source⟩
  | dropOwn name => exact ⟨_, .dropOwn name, h.changeOwn fun name' => textIn?_filter d.own name' name⟩
  | lookOwn name =>
    refine ⟨g, ?_, h⟩
    simp only [serve, h.own]
    exact .lookOwn name

/-- A desk answers as its ledger does, request after request. -/
theorem serveAll_keeps : ∀ (requests : List Request) {d : Desk} {g : Ledger}, d.Keeps g →
    ∃ g', g.ServesAll requests (d.serveAll requests).1 g' ∧ (d.serveAll requests).2.Keeps g'
  | [], _, g, h => ⟨g, .nil g, h⟩
  | r :: rs, _, _, h => by
    obtain ⟨g₁, hr, h₁⟩ := serve_keeps h r
    obtain ⟨g₂, hrs, h₂⟩ := serveAll_keeps rs h₁
    exact ⟨g₂, .cons hr hrs, h₂⟩

/-- A desk and its ledger are filled alike. -/
theorem Keeps.fill : ∀ (sources : List (Text × SourceText)) {d : Desk} {g : Ledger}, d.Keeps g →
    Keeps { d with catalog := sources.foldl (fun c (name, source) => c.add name source) d.catalog }
      { g with registered := g.registered ++ sources }
  | [], _, g, h => by simpa using h
  | (name, source) :: sources, _, g, h => by
    have hfill := Keeps.fill sources (h.register name source)
    simpa [Ledger.register] using hfill

theorem keeps_ofList (sources : List (Text × SourceText)) : (ofList sources).Keeps (Ledger.ofList sources) := by
  have hempty : Keeps ⟨Catalog.empty, [], sources⟩ ⟨[], [], textIn? sources⟩ :=
    ⟨rfl, fun _ => rfl, rfl, rfl, (fun _ _ _ he => by cases he), fun _ => rfl⟩
  exact hempty.fill sources

/-- **A desk answers as a map without line tables would**, whatever it is asked: every reply is one that the ledger of
the sources registered so far allows. It refuses exactly the names that were never registered, and is not changed by a
refusal. What the caller does to their own sources, from which it was filled, shows only where these are looked up. -/
theorem replies_of_serveAll (sources : List (Text × SourceText)) (requests : List Request) :
    ∃ g, (Ledger.ofList sources).ServesAll requests ((ofList sources).serveAll requests).1 g ∧
      ∀ name, ((ofList sources).serveAll requests).2.serve (.fetch name) =
          (.refused (.unknownSource name), ((ofList sources).serveAll requests).2) ↔
        ∀ source, (name, source) ∉ sources ∧ Request.add name source ∉ requests := by
  obtain ⟨g, hs, h⟩ := serveAll_keeps requests (keeps_ofList sources)
  refine ⟨g, hs, fun name => ?_⟩
  rw [serve_fetch_eq_refused_iff h, Ledger.textOf?, textIn?_eq_none_iff]
  simp only [hs.mem_registered_iff, not_or, Ledger.ofList]

end Desk

end CodeFrame
