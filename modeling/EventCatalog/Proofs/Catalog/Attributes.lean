/-
# EventCatalog.Proofs.Catalog.Attributes — an event as clients see it

The resource of an event is its document with an id and a type, each member renamed to the name
that searches use.  Renaming takes the members one by one and sets each in an object: two keys
that became one would lose a value.  They never do, and the document of an event is always an
object, so the resource can always be made and is the one that is served (`resource?_eq`).
-/
import EventCatalog.Proofs.Catalog.Members
import EventCatalog.Proofs.Outcome

set_option autoImplicit false

namespace EventCatalog

/-! ## Setting keys one after the other -/

namespace Json.Members

theorem put_of_not_mem {members : Members} {key : String} (value : Json)
    (new : key ∉ members.map Prod.fst) : members.put key value = members ++ [(key, value)] := by
  induction members with
  | nil => rfl
  | cons member rest ih =>
    obtain ⟨k, v⟩ := member
    have other : k ≠ key := fun same => new (by simp [same])
    have behind : key ∉ rest.map Prod.fst := fun listed => new (by simp [listed])
    rw [Members.put, if_neg other, ih behind, List.cons_append]

/-- Members with keys of their own are set behind the others. -/
theorem foldl_put (rename : String → String) {start members : Members}
    (apart : (start.map Prod.fst ++ members.map fun member => rename member.1).Nodup) :
    members.foldl (fun object member => object.put (rename member.1) member.2) start =
      start ++ members.map fun member => (rename member.1, member.2) := by
  induction members generalizing start with
  | nil => rw [List.foldl_nil, List.map_nil, List.append_nil]
  | cons member rest ih =>
    have new : rename member.1 ∉ start.map Prod.fst := by
      intro listed
      exact (List.nodup_append.1 apart).2.2 _ listed _ (by simp) rfl
    rw [List.foldl_cons, put_of_not_mem member.2 new, ih (by simpa using apart),
      List.append_assoc, List.map_cons, List.singleton_append]

end Json.Members

namespace Event

/-! ## The resource -/

theorem clientName_document (field : Field) : clientName field.document = field.param := by
  rw [clientName, Field.ofDocument?_document]
  rfl

variable (event : Event)

/-- **The resource of an event can always be made**, and no member is lost. -/
theorem resource?_eq : event.resource? = some event.resource := by
  have renamed := event.map_under Field.document clientName_document Field.all
  have apart : (([] : Json.Members).map Prod.fst ++
      event.members.map fun member => clientName member.1).Nodup := by
    have keys := congrArg (List.map Prod.fst) renamed
    rw [List.map_map] at keys
    show (event.members.map fun member => clientName member.1).Nodup
    exact keys ▸ event.nodup_keys_under Field.param_injective
  show some (Json.obj (("id", _) :: ("type", _) :: event.members.foldl _ [])) = _
  rw [Json.Members.foldl_put clientName apart, List.nil_append]
  exact congrArg (fun attributes => some (Json.obj (_ :: _ :: attributes))) renamed

/-- The resources of events can all be made. -/
theorem mapM_resource? (events : List Event) :
    events.mapM resource? = some (events.map resource) := by
  rw [Outcome.mapM_eq_some_iff, List.forall₂_map_right_iff, List.forall₂_same]
  exact fun event _ => event.resource?_eq

/-- Whether an object shows an event to clients: its id, its type, and under the name for
searches of each field what the event's document has for it. -/
structure ShownAs (entry : Json) : Prop where
  id : entry.get? "id" = some (.str (event.key?.getD ""))
  kind : entry.get? "type" = some (.str "event")
  value : ∀ field : Field, entry.get? field.param = (event.get field).map field.content.json

theorem shownAs_resource : event.ShownAs event.resource := by
  refine ⟨rfl, rfl, fun field => ?_⟩
  have plain : (field.param == "id") = false ∧ (field.param == "type") = false := by
    cases field <;> decide
  rw [resource, attributes_eq_under, Json.get?, Json.Members.get?, List.lookup_cons, plain.1,
    List.lookup_cons, plain.2]
  show (event.under Field.param Field.all).lookup field.param = _
  rw [event.lookup_under Field.param_injective, if_pos (Field.mem_all field)]

end Event

end EventCatalog
