/-
# EventCatalog.Search.Results — what a search finds

The answer of the store holds the number of matches and the documents of one page.  The
members of an object are read in their order, so of two faults the earlier one is the
cause.  The number of matches is a whole number of 64 bits without a sign; a page without
documents may leave them out.

An array may stand for an object.  It has the values of the known members, in the order in
which they are named here, and nothing after them.
-/
import EventCatalog.Catalog.Event

set_option autoImplicit false

namespace EventCatalog

/-- The events of one page and the number of matches. -/
structure SearchResults where
  total : Nat
  events : List Event

namespace SearchResults

/-- Reads the members of an object with a name, the last of which counts; the others are
skipped.  A missing one is malformed, unless there is a value to stand for it. -/
def readMember {α : Type} (name : String) (read : Json → Except DocumentError α)
    (found : Option α) : List (String × Json) → Except DocumentError α
  | [] =>
    match found with
    | some a => .ok a
    | none => .error .malformed
  | (key, value) :: rest =>
    if key = name then do
      let a ← read value
      readMember name read (some a) rest
    else readMember name read found rest

/-- What was read from an array; items that are left over are malformed. -/
def finish {α : Type} (rest : List Json) (a : α) : Except DocumentError α :=
  if rest.isEmpty then .ok a else .error .malformed

/-- Reads the one member of an object that counts. -/
def readOnly {α : Type} (name : String) (read : Json → Except DocumentError α) :
    Json → Except DocumentError α
  | .obj members => readMember name read none members
  | .arr (item :: rest) => do finish rest (← read item)
  | _ => .error .malformed

/-- Reads the number of matches. -/
def readCount : Json → Except DocumentError Nat
  | .int n =>
    if 0 ≤ n ∧ n ≤ (Text.greatest64 : Int) then .ok n.toNat else .error .malformed
  | _ => .error .malformed

/-- Reads the documents of a list of hits, in order. -/
def readHits : List Json → Except DocumentError (List Event)
  | [] => .ok []
  | hit :: rest => do
    let event ← readOnly "_source" Event.ofDocument hit
    return event :: (← readHits rest)

/-- Reads the list of hits. -/
def readHitList : Json → Except DocumentError (List Event)
  | .arr hits => readHits hits
  | _ => .error .malformed

/-- Reads the members that give the total and the hits. -/
def readParts (total : Option Nat) (events : Option (List Event)) :
    List (String × Json) → Except DocumentError SearchResults
  | [] =>
    match total with
    | some total => .ok ⟨total, events.getD []⟩
    | none => .error .malformed
  | (key, value) :: rest =>
    if key = "total" then do
      let total ← readOnly "value" readCount value
      readParts (some total) events rest
    else if key = "hits" then do
      let events ← readHitList value
      readParts total (some events) rest
    else readParts total events rest

/-- Reads the total and the hits of a page. -/
def readPage : Json → Except DocumentError SearchResults
  | .obj members => readParts none none members
  | .arr [total] => do return ⟨← readOnly "value" readCount total, []⟩
  | .arr (total :: hits :: rest) => do
    let total ← readOnly "value" readCount total
    let events ← readHitList hits
    finish rest ⟨total, events⟩
  | _ => .error .malformed

/-- Reads the answer of the store to a search. -/
def ofResponse (response : Json) : Except DocumentError SearchResults :=
  readOnly "hits" readPage response

end SearchResults

end EventCatalog
