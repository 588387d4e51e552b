import CodeFrame.Catalog

/-!
# The desk of a catalog

A `Desk` serves a caller who keeps what was handed out. It has the catalog, the line tables handed out so far, and the
caller's own list of sources from which the catalog was filled; `Desk.serve` answers one request, `Desk.serveAll` one
after another. A line table that was handed out stays as it is, whatever becomes of its source. The caller's own list can
be changed and looked up as well; its changes do not reach the catalog, nor do registrations reach the list.
-/

namespace CodeFrame

/-- The text under a name in a list of sources, the last one if there are several. -/
def textIn? (sources : List (Text × SourceText)) (name : Text) : Option Text :=
  (sources.reverse.lookup name).map SourceText.text

/-- A catalog, the line tables handed out, and the caller's own list of sources. -/
structure Desk where
  catalog : Catalog
  issued : List LineTable
  own : List (Text × SourceText)

namespace Desk

/-- What a caller asks for. A line table handed out earlier is called by its number. -/
inductive Request where
  | add (name : Text) (source : SourceText)
  | fetch (name : Text)
  | ask (number : Nat) (query : LineTable.Query)
  | contains (name : Text)
  | size
  | names
  /-- Goes through the names, one after another. -/
  | iterate
  /-- Sets an entry of the caller's own list. -/
  | setOwn (name : Text) (source : SourceText)
  /-- Removes an entry from the caller's own list. -/
  | dropOwn (name : Text)
  /-- Looks a text up in the caller's own list. -/
  | lookOwn (name : Text)
  deriving DecidableEq

/-- What a caller gets. -/
inductive Reply where
  | done
  | edition (number : Nat)
  | refused (f : Fault)
  | answer (a : LineTable.Answer)
  | flag (b : Bool)
  | count (n : Nat)
  | names (l : List Text)
  | own (t : Option Text)
  /-- No line table of this number was handed out. -/
  | unissued
  deriving DecidableEq

/-- The desk of a catalog filled from the caller's list. -/
def ofList (sources : List (Text × SourceText)) : Desk := ⟨Catalog.ofList sources, [], sources⟩

/-- Serves one request. -/
def serve (d : Desk) : Request → Reply × Desk
  | .add name source => (.done, { d with catalog := d.catalog.add name source })
  | .fetch name =>
    match d.catalog.fetch name with
    | (.ok e, c) =>
      (.edition e.number,
        { d with
          catalog := c
          issued := if e.number < d.issued.length then d.issued else d.issued ++ [e.table] })
    | (.error f, c) => (.refused f, { d with catalog := c })
  | .ask number query =>
    match d.issued[number]? with
    | some t => (.answer (t.answer query), d)
    | none => (.unissued, d)
  | .contains name => (.flag (d.catalog.contains name), d)
  | .size => (.count d.catalog.size, d)
  | .names => (.names d.catalog.names, d)
  | .iterate => (.names d.catalog.names, d)
  | .setOwn name source => (.done, { d with own := d.own ++ [(name, source)] })
  | .dropOwn name => (.done, { d with own := d.own.filter (·.1 ≠ name) })
  | .lookOwn name => (.own (textIn? d.own name), d)

/-- Serves requests in order. -/
def serveAll (d : Desk) : List Request → List Reply × Desk
  | [] => ([], d)
  | r :: rs =>
    let (reply, d') := d.serve r
    let (replies, d'') := d'.serveAll rs
    (reply :: replies, d'')

end Desk

end CodeFrame
