import CodeFrame.Diagnostic

/-!
# Values of any kind

A `Value` is what a program may hand over where a diagnostic is expected: anything at all. What can be asked of it is
little: its parts (`Value.part?`), whether there is something to it (`Value.hasContent`), and what it yields when it is
gone through (`Value.elements?`).

The entries of a mapping are in the order in which their keys first arrived (`Value.enter`). A value that can change
cannot be a key (`Value.isKey`), and what counts as the same key is coarser than equality (`Value.sameKey`).
-/

namespace CodeFrame

/-- The parts of a value in which a diagnostic is looked for. -/
inductive Part where
  | diagnostic
  | primary
  | place
  | comment
  | related
  | severity
  deriving DecidableEq

/-- The name under which an object holds a part. -/
def Part.name : Part → Text
  | .diagnostic => "diagnostic".toList
  | .primary => "primary_location".toList
  | .place => "location".toList
  | .comment => "comment".toList
  | .related => "secondary_locations".toList
  | .severity => "severity".toList

/-- A value of any kind. -/
inductive Value where
  | nothing
  | bool (b : Bool)
  | int (n : Int)
  | text (t : Text)
  | severity (s : Severity)
  | list (items : List Value)
  | tuple (items : List Value)
  /-- Yields its items once; there is something to it even if it yields nothing. -/
  | stream (items : List Value)
  /-- Keys with their values. Only the keys can be gone through. -/
  | mapping (entries : List (Value × Value))
  | bytes (content : List UInt8)
  | span (s : Span)
  | related (r : Related)
  | diagnostic (d : Diagnostic)
  | raised (r : Raised)
  /-- An object of any other kind. -/
  | object (attributes : List (Text × Value))
  /-- An exception of any other kind, raised without words. -/
  | exception (attributes : List (Text × Value))

namespace Value

/-! ## What can be asked -/

/-- An optional text as a value. -/
def ofText? : Option Text → Value
  | some t => .text t
  | none => .nothing

/-- An optional span as a value. -/
def ofSpan? : Option Span → Value
  | some s => .span s
  | none => .nothing

/-- An optional diagnostic as a value. -/
def ofDiagnostic? : Option Diagnostic → Value
  | some d => .diagnostic d
  | none => .nothing

/-- A part of a value. Objects and exceptions hold what they like; of the other kinds, diagnostics, related places and
what was raised have some. -/
def part? : Value → Part → Option Value
  | .object attributes, p => attributes.lookup p.name
  | .exception attributes, p => attributes.lookup p.name
  | .diagnostic d, .primary => some (ofSpan? d.primary)
  | .diagnostic d, .comment => some (ofText? d.comment)
  | .diagnostic d, .related => some (.tuple (d.related.map .related))
  | .diagnostic d, .severity => some (.severity d.severity)
  | .related r, .place => some (.span r.location)
  | .raised r, .diagnostic => some (ofDiagnostic? r.diagnostic?)
  | _, _ => none

/-- Whether there is something to a value. -/
def hasContent : Value → Bool
  | .nothing => false
  | .bool b => b
  | .int n => n ≠ 0
  | .text t => t ≠ []
  | .list items => !items.isEmpty
  | .tuple items => !items.isEmpty
  | .mapping entries => !entries.isEmpty
  | .bytes content => content ≠ []
  | _ => true

/-- The text of a value that is a text; a severity is the text of its name. -/
def text? : Value → Option Text
  | .text t => some t
  | .severity s => some s.name
  | _ => none

/-- The span of a value that is a span. -/
def span? : Value → Option Span
  | .span s => some s
  | _ => none

/-- What a value yields when it is gone through: a text its characters, a mapping its keys, bytes their numbers. -/
def elements? : Value → Option (List Value)
  | .text t => some (t.map fun c => .text [c])
  | .severity s => some (s.name.map fun c => .text [c])
  | .list items => some items
  | .tuple items => some items
  | .stream items => some items
  | .mapping entries => some (entries.map Prod.fst)
  | .bytes content => some (content.map fun b => .int b.toNat)
  | _ => none

/-! ## Keys of a mapping -/

/-- The number of a value that counts as one. -/
def number? : Value → Option Int
  | .int n => some n
  | .bool b => some (if b then 1 else 0)
  | _ => none

mutual

/-- Whether a value can be a key: a list or a mapping cannot, nor a tuple that holds one. -/
def isKey : Value → Bool
  | .list _ => false
  | .mapping _ => false
  | .tuple items => areKeys items
  | _ => true

/-- Whether all of the values can be keys. -/
def areKeys : List Value → Bool
  | [] => true
  | v :: vs => isKey v && areKeys vs

end

mutual

/-- Whether two values are the same key. Truth values are the same as their numbers, severities the same as their
names; objects, exceptions, streams and what was raised are never the same as another value. -/
def sameKey : Value → Value → Bool
  | .nothing, .nothing => true
  | .tuple xs, .tuple ys => sameKeys xs ys
  | .bytes a, .bytes b => a = b
  | .span a, .span b => a = b
  | .related a, .related b => a = b
  | .diagnostic a, .diagnostic b => a = b
  | v, w =>
    match v.number?, w.number?, v.text?, w.text? with
    | some m, some n, _, _ => m = n
    | _, _, some s, some t => s = t
    | _, _, _, _ => false

/-- Whether two tuples hold the same keys. -/
def sameKeys : List Value → List Value → Bool
  | [], [] => true
  | v :: vs, w :: ws => sameKey v w && sameKeys vs ws
  | _, _ => false

end

/-- The entries with a value under a key: in the place of the same key, which stays as it is, or else at the end. -/
def enter (key value : Value) : List (Value × Value) → List (Value × Value)
  | [] => [(key, value)]
  | (k, v) :: rest => if sameKey k key then (k, value) :: rest else (k, v) :: enter key value rest

/-- Enters a value under a key, if it can be one. -/
def enterChecked (key value : Value) (entries : List (Value × Value)) : Except Fault (List (Value × Value)) :=
  if key.isKey then .ok (enter key value entries) else .error .notAKey

end Value

end CodeFrame
