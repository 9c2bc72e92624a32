/-
# EventCatalog.Proofs.Catalog.Resource — clients lose nothing of a document

The resource of an event has an id, a type, and an attribute for each member of its document.
`Event.Resembles` says what the attributes are, key by key and value by value.  The attributes
have the names of fields in searches, and no field is called `id` or `type` there, so no
key of the object stands twice (`Event.nodup_keys_resource`).

The names in searches and the names in documents determine each other.  Giving the attributes
the names in documents again makes the stored document out of them (`Event.map_storedName`),
so two events that clients see alike are stored alike: `Event.resource_keeps_document`.
-/
import EventCatalog.Proofs.Catalog.Attributes
import EventCatalog.Proofs.Catalog.Conformity

set_option autoImplicit false

namespace EventCatalog

/-- The name in documents of a key that clients see; an unknown key keeps its own. -/
def Event.storedName (key : String) : String :=
  ((Field.ofParam? key).map Field.document).getD key

theorem Event.storedName_param (field : Field) :
    Event.storedName field.param = field.document := by
  rw [Event.storedName, Field.ofParam?_param]
  rfl

/-- No field has the name of one of the two members that every resource has. -/
theorem Field.param_ne_id_type (field : Field) : field.param ≠ "id" ∧ field.param ≠ "type" := by
  cases field <;> decide

namespace Event

variable (event : Event)

/-! ## Ids -/

/-- What the id of an event is for clients: its game id, or nothing where that is unset or
blank. -/
def HasId (id : String) : Prop :=
  (event.get .gameId = some id ∧ Text.allBlank id = false) ∨
    ((∀ held : String, event.get .gameId = some held → Text.allBlank held = true) ∧ id = "")

theorem hasId : event.HasId (event.key?.getD "") := by
  have shown (held : Option String) (id : String)
      (same : (held.filter fun id => !Text.allBlank id).getD "" = id) :
      (held = some id ∧ Text.allBlank id = false) ∨
        ((∀ text, held = some text → Text.allBlank text = true) ∧ id = "") := by
    cases held with
    | none => exact .inr ⟨nofun, same.symm⟩
    | some text =>
      cases blank : Text.allBlank text with
      | false =>
        rw [Option.filter_some_pos (by simp [blank]), Option.getD_some] at same
        exact .inl ⟨congrArg some same, same ▸ blank⟩
      | true =>
        rw [Option.filter_some_neg (by simp [blank])] at same
        refine .inr ⟨fun other given => ?_, same.symm⟩
        rw [← Option.some.inj given, blank]
  exact shown (event.get .gameId) _ rfl

/-! ## Attributes -/

/-- What the attributes of an event are for clients: one for each field that is set, in the
order of the fields, under the field's name in searches, with the value that the document of
the event has for the field. -/
structure Resembles (attributes : Json.Members) : Prop where
  keys : ∃ fields : List Field, attributes.map Prod.fst = fields.map Field.param ∧
    fields.Pairwise (·.ctorIdx < ·.ctorIdx) ∧
    ∀ field, field ∈ fields ↔ (event.get field).isSome = true
  value : ∀ name value, (name, value) ∈ attributes →
    ∃ field : Field, field.param = name ∧ event.document.get? field.document = some value

theorem resembles : event.Resembles (event.under Field.param Field.all) := by
  constructor
  case keys =>
    refine ⟨Field.all.filter fun field => (event.get field).isSome, ?_, ?_, fun field => ?_⟩
    · exact event.keys_under Field.param Field.all
    · exact Field.pairwise_all.filter _
    · rw [List.mem_filter, and_iff_right (Field.mem_all field)]
  case value =>
    intro name value listed
    obtain ⟨field, -, held, set, named, rfl⟩ := (event.mem_under_iff Field.param).1 listed
    refine ⟨field, named, ?_⟩
    rw [get?_document, Field.ofDocument?_document, Option.bind_some, set]
    rfl

/-- **No key of a resource stands twice**: the attributes have names of their own, and none is
called like the id or the type. -/
theorem nodup_keys_resource :
    ("id" :: "type" :: (event.under Field.param Field.all).map Prod.fst).Nodup := by
  have foreign (key : String) (other : ∀ field : Field, field.param ≠ key) :
      key ∉ (event.under Field.param Field.all).map Prod.fst := by
    intro listed
    rw [keys_under, List.mem_map] at listed
    obtain ⟨field, -, named⟩ := listed
    exact other field named
  rw [List.nodup_cons, List.nodup_cons]
  refine ⟨?_, ?_, event.nodup_keys_under Field.param_injective⟩
  · rw [List.mem_cons, not_or]
    exact ⟨by decide, foreign "id" fun field => field.param_ne_id_type.1⟩
  · exact foreign "type" fun field => field.param_ne_id_type.2

/-- **The document is made of the attributes again**, by the names in documents. -/
theorem map_storedName :
    .obj ((event.under Field.param Field.all).map
      fun member => (storedName member.1, member.2)) = event.document :=
  congrArg Json.obj (event.map_under Field.param storedName_param Field.all)

/-! ## Resources -/

/-- **The resource of an event keeps its document.**  It can be made of every event, it is an
object without repeated keys, with the id, the type and then the attributes of the event, and
the attributes under the names in documents are the document.  So events whose documents
differ have resources that differ. -/
theorem resource_keeps_document (event : Event) :
    (∃ (id : String) (attributes : Json.Members),
      event.resource? =
        some (.obj (("id", .str id) :: ("type", .str "event") :: attributes)) ∧
      event.HasId id ∧ event.Resembles attributes ∧
      ("id" :: "type" :: attributes.map Prod.fst).Nodup ∧
      .obj (attributes.map fun member => (storedName member.1, member.2)) = event.document) ∧
    ∀ other : Event, event.document ≠ other.document → event.resource? ≠ other.resource? := by
  constructor
  · exact ⟨event.key?.getD "", event.under Field.param Field.all, event.resource?_eq,
      event.hasId, event.resembles, event.nodup_keys_resource, event.map_storedName⟩
  · intro other apart same
    rw [resource?_eq, resource?_eq, Option.some.injEq, resource, resource, attributes_eq_under,
      attributes_eq_under] at same
    have attributes : event.under Field.param Field.all = other.under Field.param Field.all := by
      injection same with members
      injection members with _ members
      injection members with _ members
    apply apart
    rw [← event.map_storedName, ← other.map_storedName, attributes]

/-- An event with a blank game id has the id of one with none, and another resource. -/
theorem resource_keeps_document_blank :
    empty.HasId "" ∧ (empty.set .gameId (some " ")).HasId "" ∧
      empty.resource? ≠ (empty.set .gameId (some " ")).resource? := by
  refine ⟨?_, ?_, ?_⟩
  · exact empty.hasId
  · exact (empty.set .gameId (some " ")).hasId
  · apply (resource_keeps_document empty).2
    intro same
    have members : ([] : Json.Members) = [("game_id", .str " ")] := Json.obj.inj same
    cases members

end Event

end EventCatalog
