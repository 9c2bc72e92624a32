/-
# EventCatalog.Proofs.Catalog.Members — the fields of an event as members of an object

The document of an event and the attributes that clients see list the same values, each under
one of the names of its field (`Event.under`).  The keys are the names of the fields that are
set, in their order.  Where no two fields share a name of that kind, the object has under the
name of a field what the event has in it, and nothing under any other name
(`Event.lookup_under`, `Event.lookup_under_of_ne`).
-/
import EventCatalog.Proofs.Catalog.Tables

set_option autoImplicit false

namespace EventCatalog

namespace Event

variable (event : Event) (name : Field → String)

/-- The values of some fields, as far as they are set, each under a name of its field. -/
def under (fields : List Field) : Json.Members :=
  fields.filterMap fun field =>
    (event.get field).map fun value => (name field, field.content.json value)

theorem members_eq_under : event.members = event.under Field.document Field.all := by
  rw [← funext Field.memberName_eq]
  rfl

theorem attributes_eq_under :
    Field.declared.filterMap event.attribute? = event.under Field.param Field.all := rfl

/-- The member of the first field, if that is set, and then those of the further fields. -/
theorem under_cons (field : Field) (rest : List Field) :
    event.under name (field :: rest) =
      ((event.get field).map fun value => (name field, field.content.json value)).toList ++
        event.under name rest := by
  rw [under, List.filterMap_cons]
  cases event.get field <;> rfl

/-- What stands among the members. -/
theorem mem_under_iff {key : String} {value : Json} {fields : List Field} :
    (key, value) ∈ event.under name fields ↔
      ∃ field ∈ fields, ∃ held, event.get field = some held ∧
        name field = key ∧ field.content.json held = value := by
  simp only [under, List.mem_filterMap, Option.map_eq_some_iff, Prod.mk.injEq]

/-- **The keys are the names of the fields that are set**, in their order. -/
theorem keys_under (fields : List Field) :
    (event.under name fields).map Prod.fst =
      (fields.filter fun field => (event.get field).isSome).map name := by
  induction fields with
  | nil => rfl
  | cons field rest ih =>
    rw [under_cons, List.map_append, ih, List.filter_cons]
    cases event.get field <;> rfl

/-- Renaming the keys, where each name of one kind becomes the field's name of another kind. -/
theorem map_under {other : Field → String} {rename : String → String}
    (renames : ∀ field, rename (name field) = other field) (fields : List Field) :
    (event.under name fields).map (fun member => (rename member.1, member.2)) =
      event.under other fields := by
  induction fields with
  | nil => rfl
  | cons field rest ih =>
    rw [under_cons, under_cons, List.map_append, ih]
    cases event.get field with
    | none => rfl
    | some value =>
      show (rename (name field), _) :: _ = (other field, _) :: _
      rw [renames]
      rfl

variable {name}

/-- No key stands twice. -/
theorem nodup_keys_under (apart : ∀ {field other}, name field = name other → field = other) :
    ((event.under name Field.all).map Prod.fst).Nodup := by
  rw [keys_under]
  refine List.pairwise_map.2 ((Field.pairwise_all.filter _).imp ?_)
  intro field other before same
  rw [apart same] at before
  exact absurd before (Nat.lt_irrefl _)

/-- **What stands under the name of a field.** -/
theorem lookup_under (apart : ∀ {field other}, name field = name other → field = other)
    (field : Field) (fields : List Field) :
    (event.under name fields).lookup (name field) =
      if field ∈ fields then (event.get field).map field.content.json else none := by
  induction fields with
  | nil => rfl
  | cons first rest ih =>
    rw [under_cons]
    by_cases here : first = field
    · subst here
      rw [if_pos List.mem_cons_self]
      cases held : event.get first with
      | none =>
        show (event.under name rest).lookup (name first) = none
        rw [ih, held]
        simp
      | some value => exact List.lookup_cons_self
    · have other : (name field == name first) = false :=
        beq_false_of_ne fun same => here (apart same).symm
      have further : field ∈ first :: rest ↔ field ∈ rest := by simp [Ne.symm here]
      simp only [further]
      rw [← ih]
      cases event.get first with
      | none => rfl
      | some value =>
        show List.lookup (name field) ((name first, _) :: _) = _
        rw [List.lookup_cons, other]
        rfl

theorem lookup_under_of_ne {key : String} (foreign : ∀ field, name field ≠ key)
    (fields : List Field) : (event.under name fields).lookup key = none := by
  rw [List.lookup_eq_none_iff]
  intro member listed
  obtain ⟨field, -, held, -, same, -⟩ := (event.mem_under_iff name).1 listed
  rw [← same]
  exact bne_iff_ne.2 (foreign field).symm

end Event

end EventCatalog
