/-
# EventCatalog.Search.Parameter — what a search parameter asks for

A search parameter is a name with the values given for it.  `page`, `limit` and `sort`
shape the result; `filter` searches titles and descriptions at once; every other name is
that of a field, and its values become one term of the field's kind.

Repeated values of a field are joined by commas, so they mean what one list of all their
items means.  Literals of a vocabulary may hold commas themselves, so values that all
name a word are taken whole.
-/
import EventCatalog.Catalog.Field
import EventCatalog.Query.Term

set_option autoImplicit false

namespace EventCatalog

/-- Why a parameter is rejected. -/
inductive ParameterError where
  /-- No field is searched by that name. -/
  | unknownField (name : String)
  /-- More than one value for a parameter that takes one. -/
  | duplicate (name : String)
  /-- A value that a parameter of the result's shape cannot take. -/
  | invalidPagination (name value reason : String)
  /-- A value that is no order of results. -/
  | invalidSort (value reason : String)
  /-- A value that cannot be compiled. -/
  | query (error : QueryError)
  deriving DecidableEq, Repr

/-- The message for a cause. -/
def ParameterError.message : ParameterError → String
  | .unknownField name => "field '" ++ name ++ "' is not supported"
  | .duplicate name => "only 1 " ++ name ++ " query parameter is allowed"
  | .invalidPagination name value reason =>
    "invalid " ++ name ++ " '" ++ value ++ "': " ++ reason
  | .invalidSort value reason => "invalid sort '" ++ value ++ "': " ++ reason
  | .query error => error.message

/-! ## Order -/

/-- The direction of an order. -/
inductive Direction where
  | ascending
  | descending
  deriving DecidableEq, Repr

/-- The word for a direction. -/
def Direction.name : Direction → String
  | .ascending => "asc"
  | .descending => "desc"

/-- The direction with a name in any letter case. -/
def Direction.read? (s : String) : Option Direction :=
  if Text.sameLetters s "asc" then some .ascending
  else if Text.sameLetters s "desc" then some .descending
  else none

/-- The order of results by one field. -/
structure SortOrder where
  field : Field
  direction : Direction
  deriving DecidableEq, Repr

namespace SortOrder

/-- The order by the field with a name; text has no order. -/
def byField (s name : String) (direction : Direction) : Except ParameterError SortOrder :=
  match Field.ofParam? name with
  | none => .error (.unknownField name)
  | some field =>
    if field.kind = .text then .error (.invalidSort s "text fields cannot be sorted")
    else .ok ⟨field, direction⟩

/-- Reads an order: the name of a field, alone or with a point and a direction. -/
def parse (s : String) : Except ParameterError SortOrder :=
  match Text.splitOnce '.' s.toList with
  | none => byField s s .ascending
  | some (name, word) =>
    match Direction.read? (String.ofList word) with
    | none => .error (.invalidSort s "direction must be asc or desc")
    | some direction => byField s (String.ofList name) direction

/-- The order in a query. -/
def query (sort : SortOrder) : Json :=
  .field sort.field.document (.field "order" (.str sort.direction.name))

/-- The order as a parameter. -/
def param (sort : SortOrder) : String :=
  sort.field.param ++ "." ++ sort.direction.name

end SortOrder

/-! ## The shape of the result -/

/-- How many results a page has unless a search says otherwise. -/
def defaultLimit : Nat := 100

/-- How many results a page has at most. -/
def greatestLimit : Nat := 5000

/-- The single value of a parameter. -/
def singleValue (name : String) : List String → Except ParameterError String
  | [value] => .ok value
  | [] => .error (.invalidPagination name "" "a value is required")
  | _ => .error (.duplicate name)

/-- Reads the number of a page. -/
def readPage (values : List String) : Except ParameterError Nat := do
  let value ← singleValue "page" values
  match Text.readUnsigned Text.greatest32 (Text.trimBlanks value.toList) with
  | some page => return page
  | none => .error (.invalidPagination "page" value "must be a non-negative integer")

/-- Reads how many results a page has. -/
def readLimit (values : List String) : Except ParameterError Nat := do
  let value ← singleValue "limit" values
  match (Text.readUnsigned Text.greatest32 (Text.trimBlanks value.toList)).filter
      fun limit => 1 ≤ limit ∧ limit ≤ greatestLimit with
  | some limit => return limit
  | none =>
    .error (.invalidPagination "limit" value
      ("must be an integer between 1 and " ++ String.ofList (Text.digits greatestLimit)))

/-- Reads the order of results. -/
def readSort (values : List String) : Except ParameterError SortOrder := do
  SortOrder.parse (← singleValue "sort" values)

/-! ## Terms -/

/-- The name of the parameter that searches several fields at once. -/
def filterParam : String := "filter"

/-- All words of a query, in the title or one of the descriptions; titles count most. -/
def filterTerm (query : String) : Term :=
  .multiMatch query
    [(Field.title.document, some 6), (Field.shortDescription.document, some 2),
     (Field.longDescription.document, none)]
    .and

/-- The literals that all of some values name; `none` if one names no word. -/
def literals? (field : Field) : List String → Option (List String)
  | [] => some []
  | value :: rest => do
    let literal ← field.literal? value
    return literal :: (← literals? field rest)

/-- The literal that a text names, or the text itself. -/
def literalOrSelf (field : Field) (s : String) : String :=
  (field.literal? s).getD s

/-- The keyword term for the values of a field, which are joined in `raw`. -/
def keywordTerm (field : Field) (values : List String) (raw : String) :
    Except QueryError Term :=
  match literals? field values with
  | some (literal :: more) => Term.ofLiterals field.document (literal :: more)
  | _ => (Term.ofKeyword field.document raw).map (Term.mapValues (literalOrSelf field))

/-- The text term for joined values.  A star at the end of a single word searches for
the words that start with what is before it. -/
def textTerm (field : Field) (raw : String) : Except QueryError Term :=
  let s := raw.toList
  if s.getLast? = some '*' ∧ ',' ∉ s then
    Term.ofLeading field.document (String.ofList s.dropLast)
  else Term.ofText field.document raw

/-- The term for the values of a field. -/
def fieldTerm (field : Field) (values : List String) : Except QueryError Term :=
  let raw := ",".intercalate values
  match field.kind with
  | .keyword => keywordTerm field values raw
  | .text => textTerm field raw
  | .number => Term.ofNumber field.document raw
  | .date => Term.ofDate field.document raw

/-- The term that a parameter asks for; a blank filter asks for none. -/
def compileTerm (name : String) (values : List String) :
    Except ParameterError (Option Term) :=
  if name = filterParam then
    let raw := ",".intercalate values
    .ok (if Text.allBlank raw then none else some (filterTerm raw))
  else match Field.ofParam? name with
    | none => .error (.unknownField name)
    | some field =>
      match fieldTerm field values with
      | .ok term => .ok (some term)
      | .error e => .error (.query e)

end EventCatalog
