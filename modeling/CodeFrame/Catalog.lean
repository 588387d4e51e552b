import CodeFrame.LineTable
import CodeFrame.Script

/-!
# Catalogs of sources

A `Catalog` holds named texts in the order in which the names first arrived. The line table of a text is built when it
is first asked for and kept as an `Edition` until the text is replaced, be it by the same text; each edition has a number
of its own. A lookup that fails changes nothing. The lines and columns of a text that is registered can be written as
numerals (`SourceText`).

A kept edition is one of the text it stands beside (`Entry.current`), so keeping it never shows in an answer.
-/

namespace CodeFrame

/-- A text that can be registered. It is held in memory, so it is far shorter than this bound, below which each of its
lines and columns can be written as a numeral, also if they are counted from one. -/
structure SourceText where
  text : Text
  fits : Text.Fits (text.length + 1) := by decide
  deriving DecidableEq

/-- The line table of a source, with the number under which it was built. -/
structure Edition where
  number : Nat
  table : LineTable

/-- A named text, and its edition once it was asked for. -/
structure Entry where
  name : Text
  source : SourceText
  edition : Option Edition
  current : ∀ e ∈ edition, e.table.source = source.text := by simp

/-- The text of an entry. -/
def Entry.text (e : Entry) : Text := e.source.text

/-- The entry with an edition of its text. -/
def Entry.opened (e : Entry) (number : Nat) : Entry where
  name := e.name
  source := e.source
  edition := some ⟨number, LineTable.ofText e.source.text⟩

/-- Named texts in the order of their first arrival, and the number of editions built so far. -/
structure Catalog where
  entries : List Entry
  built : Nat

namespace Catalog

/-- A catalog without sources. -/
def empty : Catalog := ⟨[], 0⟩

/-- The entries with one in the place of its namesake, or at the end if there is none. -/
def put (e : Entry) : List Entry → List Entry
  | [] => [e]
  | x :: xs => if x.name = e.name then e :: xs else x :: put e xs

/-- The entry of a name. -/
def entryOf? (c : Catalog) (name : Text) : Option Entry := c.entries.find? (·.name = name)

/-- Adds a source, or replaces its text and forgets its edition. -/
def add (c : Catalog) (name : Text) (source : SourceText) : Catalog :=
  { c with entries := put { name, source, edition := none } c.entries }

/-- The catalog of some sources; of two texts under one name the later one counts. -/
def ofList (sources : List (Text × SourceText)) : Catalog :=
  sources.foldl (fun c (name, source) => c.add name source) empty

/-- The edition of a source, built now if there is none. -/
def fetch (c : Catalog) (name : Text) : Except Fault Edition × Catalog :=
  match c.entryOf? name with
  | none => (.error (.unknownSource name), c)
  | some e =>
    match e.edition with
    | some edition => (.ok edition, c)
    | none => (.ok ⟨c.built, LineTable.ofText e.text⟩, ⟨put (e.opened c.built) c.entries, c.built + 1⟩)

/-- The names, in the order of their first arrival. -/
def names (c : Catalog) : List Text := c.entries.map Entry.name

/-- Whether there is a source of this name. -/
def contains (c : Catalog) (name : Text) : Bool := (c.entryOf? name).isSome

/-- The number of sources. -/
def size (c : Catalog) : Nat := c.entries.length

/-- A catalog as a finder of its sources. -/
def find : Finder Catalog Fault := fun name c =>
  match c.fetch name with
  | (.ok edition, c') => (.ok edition.table.view, c')
  | (.error f, c') => (.error f, c')

/-! ## The entry of a name -/

theorem find?_put_same (e : Entry) : ∀ l, (put e l).find? (·.name = e.name) = some e
  | [] => by simp [put]
  | x :: xs => by
    by_cases h : x.name = e.name
    · simp [put, h]
    · simp [put, h, find?_put_same e xs]

theorem find?_put_of_ne {e : Entry} {name : Text} (h : e.name ≠ name) :
    ∀ l, (put e l).find? (·.name = name) = l.find? (·.name = name)
  | [] => by simp [put, h]
  | x :: xs => by
    by_cases hx : x.name = e.name
    · simp [put, hx, h]
    · simp only [put, if_neg hx, List.find?_cons, find?_put_of_ne h xs]

/-- An added source has the new text and no edition yet. -/
@[simp] theorem entryOf?_add_same (c : Catalog) (name : Text) (source : SourceText) :
    (c.add name source).entryOf? name = some ⟨name, source, none, nofun⟩ :=
  find?_put_same { name, source, edition := none } c.entries

/-- Adding a source leaves the others as they are. -/
theorem entryOf?_add_of_ne (c : Catalog) {name name' : Text} (source : SourceText) (h : name ≠ name') :
    (c.add name source).entryOf? name' = c.entryOf? name' :=
  find?_put_of_ne h c.entries

/-- A lookup that fails changes nothing. -/
theorem fetch_of_entryOf?_eq_none {c : Catalog} {name : Text} (h : c.entryOf? name = none) :
    c.fetch name = (.error (.unknownSource name), c) := by
  simp [fetch, h]

end Catalog

end CodeFrame
