/-
# EventCatalog.Catalog.Member — the members of an event

An event is declared with one member for each field.  A member has the name that it has in
documents and the kind of its values, and the members are declared in the order that
documents follow.

A coercion says which member the cells of a column are for and by which rule they are read.
What the rule reads is what the member holds (`Coercion.fits`), so a value that was read can
be stored as it is.
-/
import EventCatalog.Catalog.Field
import EventCatalog.Catalog.Rule

set_option autoImplicit false

namespace EventCatalog

/-! ## Members -/

/-- A member as an event declares it. -/
structure Member where
  /-- The name in documents. -/
  name : String
  content : Content
  deriving DecidableEq, Repr

namespace Field

/-- The member of an event that is called like the field. -/
def member : Field → Member
  | .gameId => ⟨"game_id", .text⟩
  | .year => ⟨"year", .integer⟩
  | .group => ⟨"group", .text⟩
  | .title => ⟨"title", .text⟩
  | .shortDescription => ⟨"short_description", .text⟩
  | .longDescription => ⟨"long_description", .text⟩
  | .eventType => ⟨"event_type", .enumerated .eventType⟩
  | .gameSystem => ⟨"game_system", .text⟩
  | .rulesEdition => ⟨"rules_edition", .text⟩
  | .minPlayers => ⟨"min_players", .integer⟩
  | .maxPlayers => ⟨"max_players", .integer⟩
  | .ageRequired => ⟨"age_required", .enumerated .ageGroup⟩
  | .experienceRequired => ⟨"experience_required", .enumerated .experience⟩
  | .materialsProvided => ⟨"materials_provided", .text⟩
  | .materialsRequired => ⟨"materials_required", .text⟩
  | .materialsRequiredDetails => ⟨"materials_required_details", .text⟩
  | .startDateTime => ⟨"start_date_time", .timestamp⟩
  | .duration => ⟨"duration", .float⟩
  | .endDateTime => ⟨"end_date_time", .timestamp⟩
  | .gmNames => ⟨"gm_names", .text⟩
  | .website => ⟨"website", .text⟩
  | .email => ⟨"email", .text⟩
  | .tournament => ⟨"tournament", .text⟩
  | .roundNumber => ⟨"round_number", .integer⟩
  | .totalRounds => ⟨"total_rounds", .integer⟩
  | .minimumPlayTime => ⟨"minimum_play_time", .float⟩
  | .attendeeRegistration => ⟨"attendee_registration", .enumerated .registration⟩
  | .cost => ⟨"cost", .float⟩
  | .location => ⟨"location", .text⟩
  | .roomName => ⟨"room_name", .text⟩
  | .tableNumber => ⟨"table_number", .text⟩
  | .specialCategory => ⟨"special_category", .enumerated .category⟩
  | .ticketsAvailable => ⟨"tickets_available", .integer⟩
  | .lastModified => ⟨"last_modified", .timestamp⟩
  | .alsoRuns => ⟨"also_runs", .timestamp⟩
  | .prize => ⟨"prize", .text⟩
  | .rulesComplexity => ⟨"rules_complexity", .text⟩
  | .originalOrder => ⟨"original_order", .integer⟩

/-- The name of a field's member in documents. -/
def memberName (field : Field) : String := field.member.name

/-- The kind of the values of a field's member. -/
def content (field : Field) : Content := field.member.content

/-- The values of a field's member. -/
abbrev Value (field : Field) : Type := field.content.Value

/-- The members in the order of their declaration. -/
def declared : List Field :=
  [.gameId, .year, .group, .title, .shortDescription, .longDescription, .eventType,
   .gameSystem, .rulesEdition, .minPlayers, .maxPlayers, .ageRequired, .experienceRequired,
   .materialsProvided, .materialsRequired, .materialsRequiredDetails, .startDateTime,
   .duration, .endDateTime, .gmNames, .website, .email, .tournament, .roundNumber,
   .totalRounds, .minimumPlayTime, .attendeeRegistration, .cost, .location, .roomName,
   .tableNumber, .specialCategory, .ticketsAvailable, .lastModified, .alsoRuns, .prize,
   .rulesComplexity, .originalOrder]

/-- The member with a name in documents. -/
def ofMember? (name : String) : Option Field := declared.find? (·.memberName = name)

end Field

/-! ## Coercions -/

/-- How the cells of a column get into an event. -/
structure Coercion where
  /-- The member that the cells are for. -/
  slot : Field
  /-- How a cell is read. -/
  rule : Rule
  /-- What is read is what the member holds. -/
  fits : rule.content = slot.content

namespace Coercion

/-- What was read, as a value of the member. -/
def toSlot (coercion : Coercion) (value : coercion.rule.content.Value) :
    coercion.slot.content.Value :=
  coercion.fits ▸ value

/-- The value of a cell that is not blank, for the member that it is for. -/
def read? (coercion : Coercion) (raw : String) : Option coercion.slot.content.Value :=
  (coercion.rule.read? raw).map coercion.toSlot

end Coercion

namespace Field

/-- The coercion of a field's cells. -/
def coercion : Field → Coercion
  | .gameId => ⟨.gameId, .text, rfl⟩
  | .year => ⟨.year, .integer, rfl⟩
  | .group => ⟨.group, .text, rfl⟩
  | .title => ⟨.title, .text, rfl⟩
  | .shortDescription => ⟨.shortDescription, .text, rfl⟩
  | .longDescription => ⟨.longDescription, .text, rfl⟩
  | .eventType => ⟨.eventType, .enumerated .eventType, rfl⟩
  | .gameSystem => ⟨.gameSystem, .text, rfl⟩
  | .rulesEdition => ⟨.rulesEdition, .text, rfl⟩
  | .minPlayers => ⟨.minPlayers, .integer, rfl⟩
  | .maxPlayers => ⟨.maxPlayers, .integer, rfl⟩
  | .ageRequired => ⟨.ageRequired, .enumerated .ageGroup, rfl⟩
  | .experienceRequired => ⟨.experienceRequired, .enumerated .experience, rfl⟩
  | .materialsProvided => ⟨.materialsProvided, .text, rfl⟩
  | .materialsRequired => ⟨.materialsRequired, .text, rfl⟩
  | .materialsRequiredDetails => ⟨.materialsRequiredDetails, .text, rfl⟩
  | .startDateTime => ⟨.startDateTime, .timestamp .dateTime, rfl⟩
  | .duration => ⟨.duration, .float, rfl⟩
  | .endDateTime => ⟨.endDateTime, .timestamp .dateTime, rfl⟩
  | .gmNames => ⟨.gmNames, .text, rfl⟩
  | .website => ⟨.website, .text, rfl⟩
  | .email => ⟨.email, .text, rfl⟩
  | .tournament => ⟨.tournament, .text, rfl⟩
  | .roundNumber => ⟨.roundNumber, .integer, rfl⟩
  | .totalRounds => ⟨.totalRounds, .integer, rfl⟩
  | .minimumPlayTime => ⟨.minimumPlayTime, .float, rfl⟩
  | .attendeeRegistration => ⟨.attendeeRegistration, .enumerated .registration, rfl⟩
  | .cost => ⟨.cost, .float, rfl⟩
  | .location => ⟨.location, .text, rfl⟩
  | .roomName => ⟨.roomName, .text, rfl⟩
  | .tableNumber => ⟨.tableNumber, .text, rfl⟩
  | .specialCategory => ⟨.specialCategory, .enumerated .category, rfl⟩
  | .ticketsAvailable => ⟨.ticketsAvailable, .integer, rfl⟩
  | .lastModified => ⟨.lastModified, .timestamp .dateTime, rfl⟩
  | .alsoRuns => ⟨.alsoRuns, .timestamp .dateOnly, rfl⟩
  | .prize => ⟨.prize, .text, rfl⟩
  | .rulesComplexity => ⟨.rulesComplexity, .text, rfl⟩
  | .originalOrder => ⟨.originalOrder, .integer, rfl⟩

/-- How the cells of a field are read. -/
def rule (field : Field) : Rule := field.coercion.rule

end Field

end EventCatalog
