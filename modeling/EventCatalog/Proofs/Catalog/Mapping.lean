/-
# EventCatalog.Proofs.Catalog.Mapping — how the index stores a field

The mappings of the index have a property for each field, under the name that the field has in
documents, and no other (`propertyType?_eq_some_iff`).  Its type follows from the kind and the
cells of the field: words and text are told apart, and of the numbers the whole ones.
-/
import EventCatalog.Catalog.Field

set_option autoImplicit false

namespace EventCatalog

namespace Json

/-- The type that a property says it has. -/
def typeOf? (property : Json) : Option String :=
  match property.get? "type" with
  | some (.str type) => some type
  | _ => none

/-- The type of a property in the mappings of an index. -/
def propertyType? (mappings : Json) (name : String) : Option String :=
  ((mappings.get? "properties").bind (·.get? name)).bind typeOf?

end Json

namespace Field

/-- The type that the index stores a field as. -/
def storedAs (field : Field) : String :=
  match field.kind, field.cells with
  | .keyword, _ => "keyword"
  | .text, _ => "text"
  | .number, .integer => "long"
  | .number, _ => "double"
  | .date, _ => "date"

variable {field : Field}

theorem storedAs_of_keyword (kind : field.kind = .keyword) : field.storedAs = "keyword" := by
  rw [storedAs, kind]

theorem storedAs_of_text (kind : field.kind = .text) : field.storedAs = "text" := by
  rw [storedAs, kind]

theorem storedAs_of_number (kind : field.kind = .number) :
    field.storedAs = "long" ∨ field.storedAs = "double" := by
  rw [storedAs, kind]
  cases field.cells with
  | integer => exact .inl rfl
  | string => exact .inr rfl
  | float => exact .inr rfl
  | enumerated => exact .inr rfl
  | timestamp precision => exact .inr rfl

theorem storedAs_of_date (kind : field.kind = .date) : field.storedAs = "date" := by
  rw [storedAs, kind]

/-- Only text is stored as text. -/
theorem storedAs_ne_text (kind : field.kind ≠ .text) : field.storedAs ≠ "text" := by
  cases same : field.kind with
  | keyword =>
    rw [storedAs_of_keyword same]
    decide
  | text => exact absurd same kind
  | number => rcases storedAs_of_number same with is | is <;> rw [is] <;> decide
  | date =>
    rw [storedAs_of_date same]
    decide

theorem typeOf?_mapping (field : Field) : field.mapping.typeOf? = some field.storedAs := by
  rw [mapping, storedAs]
  cases field.kind <;> cases field.cells <;> rfl

/-- A table of the fields under their names in documents. -/
theorem lookup_document {α : Type} (entry : Field → α) (fields : List Field) (name : String) :
    (fields.map fun field => (field.document, entry field)).lookup name =
      (fields.find? (·.document = name)).map entry := by
  induction fields with
  | nil => rfl
  | cons field rest ih =>
    rw [List.map_cons, List.lookup_cons, List.find?_cons]
    by_cases here : field.document = name
    · simp [here]
    · simp [here, beq_false_of_ne (Ne.symm here), ih]

end Field

theorem propertyType?_indexMappings (name : String) :
    indexMappings.propertyType? name = (Field.ofDocument? name).map Field.storedAs := by
  have found : (indexMappings.get? "properties").bind (·.get? name) =
      (Field.ofDocument? name).map Field.mapping :=
    Field.lookup_document Field.mapping Field.all name
  rw [Json.propertyType?, found]
  cases Field.ofDocument? name with
  | none => rfl
  | some field => exact field.typeOf?_mapping

/-- **The properties of the index are the fields**, each with its type. -/
theorem propertyType?_eq_some_iff {name type : String} :
    indexMappings.propertyType? name = some type ↔
      ∃ field : Field, field.document = name ∧ field.storedAs = type := by
  rw [propertyType?_indexMappings, Option.map_eq_some_iff]
  constructor
  · rintro ⟨field, named, stored⟩
    exact ⟨field, Field.document_of_ofDocument? named, stored⟩
  · rintro ⟨field, rfl, stored⟩
    exact ⟨field, Field.ofDocument?_document field, stored⟩

theorem propertyType?_document (field : Field) :
    indexMappings.propertyType? field.document = some field.storedAs :=
  propertyType?_eq_some_iff.2 ⟨field, rfl, rfl⟩

section Kinds

variable {field : Field}

theorem propertyType?_of_keyword (kind : field.kind = .keyword) :
    indexMappings.propertyType? field.document = some "keyword" := by
  rw [propertyType?_document, Field.storedAs_of_keyword kind]

theorem propertyType?_of_text (kind : field.kind = .text) :
    indexMappings.propertyType? field.document = some "text" := by
  rw [propertyType?_document, Field.storedAs_of_text kind]

theorem propertyType?_of_date (kind : field.kind = .date) :
    indexMappings.propertyType? field.document = some "date" := by
  rw [propertyType?_document, Field.storedAs_of_date kind]

end Kinds

end EventCatalog
