/-
# EventCatalog.Catalog.Event — one event of the convention

An event gives each member a value of its kind, or none: a blank cell leaves its member
unset and does not turn into a zero.  `Event.write` reads a cell by the coercion of its field
and sets the coercion's member, and nothing else (`get_set_self`, `get_set_of_ne`); a blank
cell changes nothing and one that cannot be read is refused with its cause.

The document of an event has its set members in the order of their declaration.  Reading a
document back takes its members in their order, ignores the unknown ones, and lets null stand
for no value.  A document may also be an array, which has the values of the members in the
order of their declaration and may end before the last.
-/
import EventCatalog.Catalog.Member

set_option autoImplicit false

namespace EventCatalog

/-- Why a cell cannot be written into an event. -/
inductive CellError where
  /-- No field has that name in documents. -/
  | unknownField (name : String)
  /-- The cell of a number field is no number. -/
  | invalidNumber (field : Field) (value : String)
  /-- The cell is no word of the field's vocabulary. -/
  | unknownWord (field : Field) (value : String)
  /-- The cell is no timestamp. -/
  | invalidTimestamp (field : Field) (value : String)
  deriving DecidableEq, Repr

/-- The message for a cause. -/
def CellError.message : CellError → String
  | .unknownField name => "field '" ++ name ++ "' is not supported"
  | .invalidNumber field value =>
    "field '" ++ field.document ++ "' has an invalid number '" ++ value ++ "'"
  | .unknownWord field value =>
    "field '" ++ field.document ++ "' does not allow the value '" ++ value ++ "'"
  | .invalidTimestamp field value =>
    "field '" ++ field.document ++ "' has an invalid timestamp '" ++ value ++ "'"

/-- The cause for which a field refuses a cell; text refuses none. -/
def CellError.of (field : Field) (value : String) : CellError :=
  match field.rule with
  | .enumerated _ => .unknownWord field value
  | .timestamp _ => .invalidTimestamp field value
  | .text | .integer | .float => .invalidNumber field value

/-- An event: a value or none for each member. -/
structure Event where
  /-- The value of a member, if it is set. -/
  get : (field : Field) → Option field.Value

namespace Event

/-- The event with no field set. -/
def empty : Event := ⟨fun _ => none⟩

instance : Inhabited Event := ⟨empty⟩

@[ext] theorem ext {e e' : Event} (h : ∀ field, e.get field = e'.get field) : e = e' := by
  cases e; cases e'
  congr
  exact funext h

/-- The event with one field set or unset. -/
def set (event : Event) (field : Field) (value : Option field.Value) : Event :=
  ⟨fun other => if h : other = field then h ▸ value else event.get other⟩

theorem get_set_self (event : Event) (field : Field) (value : Option field.Value) :
    (event.set field value).get field = value := by
  simp [set]

theorem get_set_of_ne (event : Event) {field other : Field} (value : Option field.Value)
    (h : other ≠ field) : (event.set field value).get other = event.get other := by
  simp [set, h]

/-! ## Cells -/

/-- Reads a cell into a field.  A blank cell leaves the event as it is. -/
def write (event : Event) (field : Field) (raw : String) : Except CellError Event :=
  if Text.allBlank raw then .ok event
  else match field.coercion.read? raw with
    | some value => .ok (event.set field.coercion.slot (some value))
    | none => .error (.of field (Text.trim raw))

/-- Reads a cell into the field with a name in documents. -/
def writeByName (event : Event) (name raw : String) : Except CellError Event :=
  match Field.ofDocument? name with
  | some field => event.write field raw
  | none => .error (.unknownField name)

/-- The key of the event's document: its game id, unless that is blank. -/
def key? (event : Event) : Option String :=
  (event.get .gameId).filter fun (id : String) => !Text.allBlank id

/-- Whether the event can be stored: only one with a key can. -/
def storable (event : Event) : Bool := event.key?.isSome

/-! ## Documents -/

/-- What the document has for a member, if it is set. -/
def member? (event : Event) (field : Field) : Option (String × Json) :=
  (event.get field).map fun value => (field.memberName, field.content.json value)

/-- The members of the event's document. -/
def members (event : Event) : Json.Members := Field.declared.filterMap event.member?

/-- The document of the event. -/
def document (event : Event) : Json := .obj event.members

/-- Sets the members that a document names, in its order, up to the first that fails. -/
def ofMembers (event : Event) : List (String × Json) → Except DocumentError Event
  | [] => .ok event
  | (name, value) :: rest =>
    match Field.ofMember? name with
    | none => event.ofMembers rest
    | some field => do
      let value ← field.content.ofJson? value
      (event.set field value).ofMembers rest

/-- Sets members to the items of an array, one after the other, up to the first that fails.  An
item too many fails. -/
def ofItems (event : Event) : List Field → List Json → Except DocumentError Event
  | _, [] => .ok event
  | [], _ :: _ => .error .malformed
  | field :: fields, value :: rest => do
    let value ← field.content.ofJson? value
    (event.set field value).ofItems fields rest

/-- Reads the document of an event. -/
def ofDocument : Json → Except DocumentError Event
  | .obj members => empty.ofMembers members
  | .arr items => empty.ofItems Field.declared items
  | _ => .error .malformed

/-- Whether two events have equal values in a member. -/
def sameIn (event other : Event) (field : Field) : Bool :=
  match event.get field, other.get field with
  | none, none => true
  | some v, some w => field.content.same v w
  | _, _ => false

/-- Whether two events have equal values in every member. -/
def same (event other : Event) : Bool := Field.declared.all (event.sameIn other)

/-! ## The shape for clients -/

/-- The name for clients of a key in documents; an unknown key keeps its own. -/
def clientName (key : String) : String := ((Field.ofDocument? key).map Field.param).getD key

/-- The resource that is made of the document of an event, if that is an object. -/
def resource? (event : Event) : Option Json :=
  match event.document with
  | .obj stored =>
    let attributes : Json.Members :=
      stored.foldl (fun object member => object.put (clientName member.1) member.2) []
    some (.obj (("id", .str (event.key?.getD "")) :: ("type", .str "event") :: attributes))
  | _ => none

/-- The attribute for a field, if it is set. -/
def attribute? (event : Event) (field : Field) : Option (String × Json) :=
  (event.get field).map fun value => (field.param, field.content.json value)

/-- The event as clients see it: an id, a type, and its set fields under the names that
searches use. -/
def resource (event : Event) : Json :=
  .obj (("id", .str (event.key?.getD "")) :: ("type", .str "event")
    :: Field.declared.filterMap event.attribute?)

theorem get_empty (field : Field) : empty.get field = none := rfl

end Event

end EventCatalog
