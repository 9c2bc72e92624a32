/-
# EventCatalog.Query.Term — compiled terms

A term is one condition on documents, checked when it is made, so that every term has a
query (`Term.query`).  An expression is rendered term by term and fails with the first that
fails, but none ever does (`Term.render_eq`).  Keyword and text terms take scalars only;
number and date terms take ranges too and are met by any of their clauses.  The values of a
clause are already numbers or timestamps.

Of the causes that a text can be refused for, a missing field comes first, then the
grammar of values, then the kind of the term.  Boolean expressions need a clause; no
condition is imposed by an empty list.
-/
import EventCatalog.Query.Value
import EventCatalog.Calendar.Reading
import EventCatalog.Decimal.Reading
import EventCatalog.Json.Basic

set_option autoImplicit false

namespace EventCatalog

/-! ## Clauses -/

/-- A bound of an interval. -/
structure Bound (α : Type) where
  /-- Whether the bound belongs to the interval. -/
  inclusive : Bool
  value : α
  deriving DecidableEq, Repr

/-- A condition on one value of a field. -/
inductive Clause (α : Type) where
  /-- Equal to a value. -/
  | exactly (value : α)
  /-- Within the bounds that there are. -/
  | between (lower upper : Option (Bound α))
  deriving DecidableEq, Repr

namespace Clause

/-- Reads an item as a clause; the lower bound is read before the upper one. -/
def ofItem {α ε : Type} (read : String → Except ε α) : Item → Except ε (Clause α)
  | .scalar text => (read text).map .exactly
  | .range r => do
    let bound (inclusive : Bool) : Option String → Except ε (Option (Bound α))
      | none => .ok none
      | some text => (read text).map fun value => some ⟨inclusive, value⟩
    let lower ← bound r.includesMin r.min
    let upper ← bound r.includesMax r.max
    return .between lower upper

/-- Reads the items of a value as clauses, up to the first that fails. -/
def ofValue {α ε : Type} (read : String → Except ε α) :
    Value → Except ε (List (Clause α))
  | [] => .ok []
  | item :: rest => do
    let clause ← ofItem read item
    let clauses ← ofValue read rest
    return clause :: clauses

/-- The query of a clause on a field. -/
def query {α : Type} (write : α → Json) (field : String) : Clause α → Json
  | .exactly value => .field "term" (.field field (write value))
  | .between lower upper =>
    let bounds (name : Bool → String) : Option (Bound α) → List (String × Json)
      | none => []
      | some bound => [(name bound.inclusive, write bound.value)]
    .field "range" (.field field
      (.obj (bounds Range.lowerOperator lower ++ bounds Range.upperOperator upper)))

/-- The query that any of the clauses satisfies; one clause stands alone. -/
def anyOf {α : Type} (write : α → Json) (field : String) : List (Clause α) → Json
  | [clause] => clause.query write field
  | clauses => .field "bool" (.field "should" (.arr (clauses.map (query write field))))

end Clause

/-! ## Numbers -/

/-- A number in a query. -/
inductive Number where
  /-- A whole number of 64 bits. -/
  | whole (n : Int64)
  /-- Any other finite number. -/
  | real (x : Float)

namespace Number

/-- Reads a number; whole text stays whole, and what is not finite is refused. -/
def read? (s : String) : Option Number :=
  let trimmed := Text.trimBlanks s.toList
  match Text.readInt64 trimmed with
  | some n => some (.whole n)
  | none => ((Decimal.readFloat trimmed).filter Float.isFinite).map .real

/-- The number as JSON. -/
def json : Number → Json
  | .whole n => .int n.toInt
  | .real x => .float x

end Number

/-! ## Terms -/

/-- How the words of a query across several fields are combined. -/
inductive Operator where
  | and
  | or
  deriving DecidableEq, Repr

/-- The word for an operator. -/
def Operator.name : Operator → String
  | .and => "and"
  | .or => "or"

/-- A condition on documents. -/
inductive Term where
  /-- The field is one of some values. -/
  | keyword (field : String) (values : List String)
  /-- The field holds the words of one query. -/
  | text (field : String) (words : List String)
  /-- A number field meets one of some clauses. -/
  | number (field : String) (clauses : List (Clause Number))
  /-- A date field meets one of some clauses. -/
  | date (field : String) (clauses : List (Clause Calendar.Timestamp))
  /-- A word of the field starts with a stem. -/
  | leading (field stem : String)
  /-- The words of one query stand in any of several fields, each with a weight. -/
  | multiMatch (query : String) (fields : List (String × Option Nat)) (operator : Operator)
  /-- All of `must`, some of `should` and none of `mustNot`. -/
  | bool (must should mustNot : List Term)

namespace Term

/-- Requires the name of a field. -/
def requireField (field : String) (kind : TermKind) : Except QueryError Unit :=
  if field = "" then .error (.missingField kind) else .ok ()

/-- The scalars of a value, for a term that takes no ranges. -/
def scalarsFor (kind : TermKind) (field raw : String) : Except QueryError (List String) := do
  requireField field kind
  let value ← Value.parse raw
  match value.scalars? with
  | some texts => return texts
  | none => .error (.unsupportedRange field kind)

/-- A keyword term on the scalars of a value. -/
def ofKeyword (field raw : String) : Except QueryError Term :=
  (scalarsFor .keyword field raw).map (.keyword field)

/-- A keyword term on values that are taken as they are. -/
def ofLiterals (field : String) (values : List String) : Except QueryError Term := do
  requireField field .keyword
  if values = [] then .error .emptyValue else return .keyword field values

/-- A text term on the scalars of a value. -/
def ofText (field raw : String) : Except QueryError Term :=
  (scalarsFor .text field raw).map (.text field)

/-- Reads a number for a field. -/
def readNumber (field value : String) : Except QueryError Number :=
  match Number.read? value with
  | some n => .ok n
  | none => .error (.invalidNumber field value)

/-- A number term on the items of a value. -/
def ofNumber (field raw : String) : Except QueryError Term := do
  requireField field .number
  let value ← Value.parse raw
  return .number field (← Clause.ofValue (readNumber field) value)

/-- Reads a timestamp for a field. -/
def readDate (field value : String) : Except QueryError Calendar.Timestamp :=
  match Calendar.normalize value with
  | some t => .ok t
  | none => .error (.invalidDate field value)

/-- A date term on the items of a value. -/
def ofDate (field raw : String) : Except QueryError Term := do
  requireField field .date
  let value ← Value.parse raw
  return .date field (← Clause.ofValue (readDate field) value)

/-- A term for words that start with a stem. -/
def ofLeading (field stem : String) : Except QueryError Term := do
  requireField field .leading
  if stem = "" then .error .emptyValue else return .leading field stem

/-- A boolean expression with at least one clause. -/
def ofClauses (must should mustNot : List Term) : Except QueryError Term :=
  if must.isEmpty && should.isEmpty && mustNot.isEmpty then .error .emptyExpression
  else .ok (.bool must should mustNot)

/-- The expression that all terms must meet. -/
def all (terms : List Term) : Except QueryError Term := ofClauses terms [] []

/-- The expression that any of the terms meets. -/
def any (terms : List Term) : Except QueryError Term := ofClauses [] terms []

/-- The values of a keyword term rewritten; other terms stay as they are. -/
def mapValues (f : String → String) : Term → Term
  | .keyword field values => .keyword field (values.map f)
  | term => term

/-- The field that a term searches, unless it searches several. -/
def field? : Term → Option String
  | .keyword field _ | .text field _ | .number field _ | .date field _
  | .leading field _ => some field
  | .multiMatch .. | .bool .. => none

/-- The words of a text term as one query. -/
def joinWords (words : List String) : String := " ".intercalate words

/-- A field with its weight, as a query names it. -/
def weighted : String × Option Nat → String
  | (name, none) => name
  | (name, some weight) => name ++ "^" ++ String.ofList (Text.digits weight)

/-- A list of clauses under its name, unless it is empty. -/
def named (name : String) (queries : List Json) : List (String × Json) :=
  if queries.isEmpty then [] else [(name, .arr queries)]

mutual

/-- The query of a term. -/
def query : Term → Json
  | .keyword field [value] => .field "term" (.field field (.str value))
  | .keyword field values => .field "terms" (.field field (.strings values))
  | .text field words => .field "match" (.field field (.str (joinWords words)))
  | .number field clauses => Clause.anyOf Number.json field clauses
  | .date field clauses => Clause.anyOf (fun t => .str t.rfc3339) field clauses
  | .leading field stem => .field "prefix" (.field field (.str stem))
  | .multiMatch query fields operator =>
    .field "multi_match" (.obj
      [("query", .str query),
       ("fields", .strings (fields.map weighted)),
       ("operator", .str operator.name)])
  | .bool must should mustNot =>
    .field "bool" (.obj
      (named "must" (queries must) ++ named "should" (queries should)
        ++ named "must_not" (queries mustNot)))

/-- The queries of several terms. -/
def queries : List Term → List Json
  | [] => []
  | term :: rest => query term :: queries rest

end

theorem queries_eq_map (terms : List Term) : queries terms = terms.map query := by
  induction terms with
  | nil => rfl
  | cons term rest ih => simp [queries, ih]

/-! ## Rendering -/

/-- Sets an array of queries under its name, unless it is empty. -/
def enter (clauses : Json.Members) (name : String) (queries : List Json) : Json.Members :=
  if queries.isEmpty then clauses else clauses.put name (.arr queries)

mutual

/-- Renders a term.  An expression fails if one of its terms does. -/
def render : Term → Except QueryError Json
  | .bool must should mustNot => do
    let clauses := enter [] "must" (← renderEach must)
    let clauses := enter clauses "should" (← renderEach should)
    let clauses := enter clauses "must_not" (← renderEach mustNot)
    return .field "bool" (.obj clauses)
  | leaf => return leaf.query

/-- Renders terms one after the other, up to the first that fails. -/
def renderEach : List Term → Except QueryError (List Json)
  | [] => return []
  | term :: rest => do
    let first ← render term
    return first :: (← renderEach rest)

end

/-- Lists that are entered one after the other stand one behind the other. -/
theorem enter_lists (must should mustNot : List Json) :
    enter (enter (enter [] "must" must) "should" should) "must_not" mustNot =
      named "must" must ++ named "should" should ++ named "must_not" mustNot := by
  cases must <;> cases should <;> cases mustNot <;> rfl

mutual

/-- **Every term renders**, to its query. -/
theorem render_eq : ∀ term : Term, term.render = .ok term.query
  | .keyword .. | .text .. | .number .. | .date .. | .leading .. | .multiMatch .. => rfl
  | .bool must should mustNot => by
    rw [render, renderEach_eq must, renderEach_eq should, renderEach_eq mustNot, query,
      ← enter_lists]
    rfl

theorem renderEach_eq : ∀ terms : List Term, renderEach terms = .ok (queries terms)
  | [] => rfl
  | term :: rest => by
    rw [renderEach, render_eq term, renderEach_eq rest, queries]
    rfl

end

end Term

end EventCatalog
