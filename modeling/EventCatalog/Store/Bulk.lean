/-
# EventCatalog.Store.Bulk — writing many documents at once

A bulk body has two lines for each event: the action, which names the index and the key of
the document, and the document itself.  Both are compact JSON, in which no line end is
ever written, so the lines of a body are exactly those (`lines`).

The response says whether there were errors at all, and for each document what became of
it.  Its parts are read strictly: a part that is given twice, or in another form than
expected, makes the response unreadable.  Parts that are not known are skipped.  A record,
which has two known parts, is an object, or an array of the parts in their order.
-/
import EventCatalog.Catalog.Event
import EventCatalog.Json.Outline
import EventCatalog.Json.Printer

set_option autoImplicit false

namespace EventCatalog

/-- A document that the store refused. -/
structure DocumentFailure where
  id : String
  reason : String
  deriving DecidableEq, Repr

namespace Bulk

/-- The action that writes an event under its key. -/
def action (index : String) (event : Event) : Json :=
  .field "index" (.obj [("_index", .str index), ("_id", .str (event.key?.getD ""))])

/-- The two lines of an event. -/
def lines (index : String) (event : Event) : List Json :=
  [action index event, event.document]

/-- The body that writes events. -/
def body (index : String) (events : List Event) : String :=
  String.ofList
    ((events.flatMap (lines index)).flatMap fun line => line.print ++ ['\n'])

/-! ## Responses -/

/-- What became of a document under an action; no failure if it succeeded. -/
abbrev Entry := String × Option DocumentFailure

/-- What the store says about a batch. -/
structure Answer where
  /-- Whether there were errors at all. -/
  errors : Bool
  /-- The entries of each item, one for each action. -/
  items : List (List Entry)
  deriving DecidableEq, Repr

/-- The failures of an answer, in order: those of its items, if there were errors. -/
def Answer.failures (answer : Answer) : List DocumentFailure :=
  if answer.errors then answer.items.flatMap fun item => item.filterMap Prod.snd else []

/-- The members of an object, whose names have to be texts. -/
def membersOf (members : List (Option String × Outline)) : Option (List (String × Outline)) :=
  members.mapM fun member => member.1.map fun name => (name, member.2)

/-- The member of an object with a name; twice the same name is unreadable. -/
def member? (name : String) (members : List (String × Outline)) : Option (Option Outline) :=
  match members.filter fun member => member.1 = name with
  | [] => some none
  | [member] => some (some member.2)
  | _ => none

/-- The two parts of a record, as far as it has them.  An array has at least some of them. -/
def parts? (first second : String) (least : Nat) :
    Outline → Option (Option Outline × Option Outline)
  | .obj members => do
    let members ← membersOf members
    return (← member? first members, ← member? second members)
  | .arr items =>
    if least ≤ items.length ∧ items.length ≤ 2 then some (items[0]?, items[1]?) else none
  | _ => none

/-- The text of a part, if it is there and not null. -/
def text? : Option Outline → Option (Option String)
  | none | some .null => some none
  | some (.str (some s)) => some (some s)
  | _ => none

/-- The words for an error with a kind and a reason. -/
def reasonText : Option String → Option String → String
  | some kind, some reason => kind ++ ": " ++ reason
  | kind, reason => (reason.or kind).getD ""

/-- The reason in an error, if there is an error. -/
def readError : Option Outline → Option (Option String)
  | none | some .null => some none
  | some error => do
    let (kind, reason) ← parts? "type" "reason" 2 error
    return some (reasonText (← text? kind) (← text? reason))

/-- What became of a document. -/
def readOutcome (outcome : Outline) : Option (Option DocumentFailure) := do
  let (id, error) ← parts? "_id" "error" 2 outcome
  let id ← text? id
  let error ← readError error
  return error.map fun reason => ⟨id.getD "", reason⟩

/-- Reads a member of an item: the name of an action, and what became of the document. -/
def readEntry (member : Option String × Outline) : Option Entry := do
  return (← member.1, ← readOutcome member.2)

/-- The last entry of each action. -/
def lastEntries : List Entry → List Entry
  | [] => []
  | entry :: rest =>
    if rest.any fun later => later.1 = entry.1 then lastEntries rest
    else entry :: lastEntries rest

/-- Reads an item.  Its members name the actions on a document; each is read, and the last of an
action counts. -/
def readItem : Outline → Option (List Entry)
  | .obj members => (members.mapM readEntry).map lastEntries
  | _ => none

/-- Reads the items of a response, which may be left out. -/
def readItems : Option Outline → Option (List (List Entry))
  | none => some []
  | some (.arr items) => items.mapM readItem
  | _ => none

/-- Reads whether there were errors. -/
def readFlag : Option Outline → Option Bool
  | some (.bool errors) => some errors
  | _ => none

/-- Reads the response to a bulk request. -/
def readAnswer (response : String) : Option Answer := do
  let (errors, items) ← parts? "errors" "items" 1 (← Json.readOutline response.toList)
  return ⟨← readFlag errors, ← readItems items⟩

end Bulk

end EventCatalog
