/-
# EventCatalog.Query.Error — why a parameter value is no query

One constructor per cause, with what the message names; the wording is `message`.
-/

set_option autoImplicit false

namespace EventCatalog

/-- The kinds of terms that search one field. -/
inductive TermKind where
  | keyword
  | text
  | number
  | date
  /-- A text field whose words start with a stem. -/
  | leading
  deriving DecidableEq, Repr

/-- The word for a kind of term. -/
def TermKind.name : TermKind → String
  | .keyword => "keyword"
  | .text => "text"
  | .number => "number"
  | .date => "date"
  | .leading => "prefix"

/-- The causes for which a value cannot be read or compiled. -/
inductive QueryError where
  /-- The value is empty. -/
  | emptyValue
  /-- A value with a range in it, but without any comma. -/
  | ambiguousValue (raw : String)
  /-- A bracketed text that is no range. -/
  | invalidRange (token : String)
  /-- A term for a field without a name. -/
  | missingField (kind : TermKind)
  /-- A range where only values are searched. -/
  | unsupportedRange (field : String) (kind : TermKind)
  /-- A value of a number field that is no finite number. -/
  | invalidNumber (field value : String)
  /-- A value of a date field that is no timestamp. -/
  | invalidDate (field value : String)
  /-- A boolean expression without any clause. -/
  | emptyExpression
  deriving DecidableEq, Repr

/-- The message for a cause. -/
def QueryError.message : QueryError → String
  | .emptyValue => "cannot have an empty value"
  | .ambiguousValue raw => "cannot find a range value or a list value in '" ++ raw ++ "'"
  | .invalidRange token =>
    "range value must have 1 or 2 comma separated values, bounded by inclusive [] "
      ++ "or exclusive () brackets, but got '" ++ token ++ "'"
  | .missingField kind => "cannot create a " ++ kind.name ++ " term without a field"
  | .unsupportedRange field kind =>
    kind.name ++ " field '" ++ field ++ "' does not support range values"
  | .invalidNumber field value =>
    "field '" ++ field ++ "' cannot be searched with the non-number value '" ++ value ++ "'"
  | .invalidDate field value =>
    "field '" ++ field ++ "' cannot be searched with the invalid date '" ++ value
      ++ "', expected RFC 3339"
  | .emptyExpression => "cannot create a bool query without must, should, or must_not set"

end EventCatalog
