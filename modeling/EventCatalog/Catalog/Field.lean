/-
# EventCatalog.Catalog.Field — the columns of the catalogue

The registry of every field that is read from the spreadsheet, stored and searched.  A
field has three names: one in search parameters, one in documents and one as the header
of its column.  The registry has the names, the type of the cells, and with them the
mapping that the search index gets (`indexMappings`).  No two fields share a name of one
kind (`ofParam?_param`, `ofDocument?_document`).

Which words a search knows for a field is a table of its own (`vocabulary?`).
-/
import EventCatalog.Calendar.Reading
import EventCatalog.Catalog.Vocabulary
import EventCatalog.Json.Basic

set_option autoImplicit false

namespace EventCatalog

/-- A field of an event, in the order of documents. -/
inductive Field where
  | gameId
  | year
  | group
  | title
  | shortDescription
  | longDescription
  | eventType
  | gameSystem
  | rulesEdition
  | minPlayers
  | maxPlayers
  | ageRequired
  | experienceRequired
  | materialsProvided
  | materialsRequired
  | materialsRequiredDetails
  | startDateTime
  | duration
  | endDateTime
  | gmNames
  | website
  | email
  | tournament
  | roundNumber
  | totalRounds
  | minimumPlayTime
  | attendeeRegistration
  | cost
  | location
  | roomName
  | tableNumber
  | specialCategory
  | ticketsAvailable
  | lastModified
  | alsoRuns
  | prize
  | rulesComplexity
  | originalOrder
  deriving DecidableEq, Repr

/-- How a field is searched. -/
inductive FieldKind where
  | keyword
  | text
  | number
  | date
  deriving DecidableEq, Repr

/-- The type of the cells of a column. -/
inductive CellType where
  | string
  | integer
  | float
  | enumerated
  | timestamp (precision : Calendar.Precision)
  deriving DecidableEq, Repr

/-- The description of a field. -/
structure FieldSpec where
  /-- The name in search parameters. -/
  param : String
  /-- The name in documents. -/
  document : String
  /-- The header of the column, in lower case. -/
  header : String
  kind : FieldKind
  cells : CellType
  deriving DecidableEq, Repr

namespace Field

/-- Every field, in the order of documents. -/
def all : List Field :=
  [.gameId, .year, .group, .title, .shortDescription, .longDescription, .eventType,
   .gameSystem, .rulesEdition, .minPlayers, .maxPlayers, .ageRequired, .experienceRequired,
   .materialsProvided, .materialsRequired, .materialsRequiredDetails, .startDateTime,
   .duration, .endDateTime, .gmNames, .website, .email, .tournament, .roundNumber,
   .totalRounds, .minimumPlayTime, .attendeeRegistration, .cost, .location, .roomName,
   .tableNumber, .specialCategory, .ticketsAvailable, .lastModified, .alsoRuns, .prize,
   .rulesComplexity, .originalOrder]

/-- The registry. -/
def spec : Field → FieldSpec
  | .gameId => ⟨"gameId", "game_id", "game id", .keyword, .string⟩
  | .year => ⟨"year", "year", "year", .number, .integer⟩
  | .group => ⟨"group", "group", "group", .text, .string⟩
  | .title => ⟨"title", "title", "title", .text, .string⟩
  | .shortDescription =>
    ⟨"shortDescription", "short_description", "short description", .text, .string⟩
  | .longDescription => ⟨"longDescription", "long_description", "long description", .text, .string⟩
  | .eventType => ⟨"eventType", "event_type", "event type", .keyword, .enumerated⟩
  | .gameSystem => ⟨"gameSystem", "game_system", "game system", .text, .string⟩
  | .rulesEdition => ⟨"rulesEdition", "rules_edition", "rules edition", .text, .string⟩
  | .minPlayers => ⟨"minPlayers", "min_players", "minimum players", .number, .integer⟩
  | .maxPlayers => ⟨"maxPlayers", "max_players", "maximum players", .number, .integer⟩
  | .ageRequired =>
    ⟨"ageRequired", "age_required", "age required", .keyword, .enumerated⟩
  | .experienceRequired =>
    ⟨"experienceRequired", "experience_required", "experience required",
     .keyword, .enumerated⟩
  | .materialsProvided =>
    ⟨"materialsProvided", "materials_provided", "materials provided", .text, .string⟩
  | .materialsRequired =>
    ⟨"materialsRequired", "materials_required", "materials required", .text, .string⟩
  | .materialsRequiredDetails =>
    ⟨"materialsRequiredDetails", "materials_required_details", "materials required details",
     .text, .string⟩
  | .startDateTime =>
    ⟨"startDateTime", "start_date_time", "start date & time", .date, (.timestamp .dateTime)⟩
  | .duration => ⟨"duration", "duration", "duration", .number, .float⟩
  | .endDateTime =>
    ⟨"endDateTime", "end_date_time", "end date & time", .date, (.timestamp .dateTime)⟩
  | .gmNames => ⟨"gmNames", "gm_names", "gm names", .text, .string⟩
  | .website => ⟨"website", "website", "website", .text, .string⟩
  | .email => ⟨"email", "email", "email", .text, .string⟩
  | .tournament => ⟨"tournament", "tournament", "tournament?", .text, .string⟩
  | .roundNumber => ⟨"roundNumber", "round_number", "round number", .number, .integer⟩
  | .totalRounds => ⟨"totalRounds", "total_rounds", "total rounds", .number, .integer⟩
  | .minimumPlayTime =>
    ⟨"minimumPlayTime", "minimum_play_time", "minimum play time", .number, .float⟩
  | .attendeeRegistration =>
    ⟨"attendeeRegistration", "attendee_registration", "attendee registration?",
     .keyword, .enumerated⟩
  | .cost => ⟨"cost", "cost", "cost $", .number, .float⟩
  | .location => ⟨"location", "location", "location", .text, .string⟩
  | .roomName => ⟨"roomName", "room_name", "room name", .text, .string⟩
  | .tableNumber => ⟨"tableNumber", "table_number", "table number", .text, .string⟩
  | .specialCategory =>
    ⟨"specialCategory", "special_category", "special category", .keyword, .enumerated⟩
  | .ticketsAvailable =>
    ⟨"ticketsAvailable", "tickets_available", "tickets available", .number, .integer⟩
  | .lastModified =>
    ⟨"lastModified", "last_modified", "last modified", .date, (.timestamp .dateTime)⟩
  | .alsoRuns => ⟨"alsoRuns", "also_runs", "also runs", .date, (.timestamp .dateOnly)⟩
  | .prize => ⟨"prize", "prize", "prize", .text, .string⟩
  | .rulesComplexity => ⟨"rulesComplexity", "rules_complexity", "rules complexity", .text, .string⟩
  | .originalOrder => ⟨"originalOrder", "original_order", "original order", .number, .integer⟩

/-- The name of a field in search parameters. -/
def param (field : Field) : String := field.spec.param

/-- The name of a field in documents. -/
def document (field : Field) : String := field.spec.document

/-- The header of a field's column. -/
def header (field : Field) : String := field.spec.header

/-- How a field is searched. -/
def kind (field : Field) : FieldKind := field.spec.kind

/-- The type of the cells of a field's column. -/
def cells (field : Field) : CellType := field.spec.cells

/-- The field with a name in search parameters. -/
def ofParam? (name : String) : Option Field := all.find? (·.param = name)

/-- The field with a name in documents. -/
def ofDocument? (name : String) : Option Field := all.find? (·.document = name)

/-- The field of a column, by its header in any letter case and trimmed. -/
def ofHeader? (header : String) : Option Field :=
  let name := String.ofList ((Text.trimBlanks header.toList).map Text.headerLower)
  all.find? (·.header = name)

/-- The words that a search knows for a field. -/
def vocabulary? : Field → Option Vocabulary
  | .ageRequired => some .ageGroup
  | .eventType => some .eventType
  | .experienceRequired => some .experience
  | .attendeeRegistration => some .registration
  | .specialCategory => some .category
  | _ => none

/-- The literal that a text stands for, if a search knows words for the field and the text is
the literal or the short form of one. -/
def literal? (field : Field) (raw : String) : Option String :=
  match field.vocabulary? with
  | some vocabulary => (vocabulary.read? (Text.trim raw)).map vocabulary.literal
  | none => none

/-- How the index stores a field. -/
def mapping (field : Field) : Json :=
  match field.kind, field.cells with
  | .keyword, _ => .field "type" (.str "keyword")
  | .text, _ => .field "type" (.str "text")
  | .number, .integer => .field "type" (.str "long")
  | .number, _ => .field "type" (.str "double")
  | .date, _ =>
    .obj [("type", .str "date"), ("format", .str "strict_date_optional_time")]

theorem mem_all (field : Field) : field ∈ all := by cases field <;> decide

theorem ofParam?_param (field : Field) : ofParam? field.param = some field := by
  cases field <;> decide

theorem ofDocument?_document (field : Field) : ofDocument? field.document = some field := by
  cases field <;> decide

variable {field other : Field}

theorem document_of_ofDocument? {name : String} (named : ofDocument? name = some field) :
    field.document = name := by
  simpa using List.find?_some named

theorem document_injective (same : field.document = other.document) : field = other := by
  have found := ofDocument?_document field
  rw [same, ofDocument?_document] at found
  exact (Option.some.inj found).symm

theorem param_injective (same : field.param = other.param) : field = other := by
  have found := ofParam?_param field
  rw [same, ofParam?_param] at found
  exact (Option.some.inj found).symm

/-- The list of the fields has the order of their declaration. -/
theorem pairwise_all : all.Pairwise (·.ctorIdx < ·.ctorIdx) := by decide

end Field

/-- The mappings of the index: how it stores each field. -/
def indexMappings : Json :=
  .field "properties" (.obj (Field.all.map fun field => (field.document, field.mapping)))

end EventCatalog
