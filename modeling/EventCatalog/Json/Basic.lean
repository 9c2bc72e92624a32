/-
# EventCatalog.Json.Basic — JSON values

Documents, queries and answers are JSON.  The members of an object keep the order in
which they were written, and whole numbers stay apart from numbers with a point or an
exponent, because `3` and `3.0` are different texts.

An object as it is read may hold a key twice.  `Json.merged` settles that everywhere in a
value: each key once, at its first place and with its last value.
-/

set_option autoImplicit false

namespace EventCatalog

/-- A JSON value. -/
inductive Json where
  | null
  | bool (b : Bool)
  /-- A number written as a whole one. -/
  | int (n : Int)
  /-- A number written with a point or an exponent. -/
  | float (x : Float)
  | str (s : String)
  | arr (items : List Json)
  | obj (members : List (String × Json))
  deriving Inhabited

namespace Json

/-- The members of an object in the order of the text. -/
abbrev Members := List (String × Json)

/-- The value of the first member with a key. -/
def Members.get? (members : Members) (key : String) : Option Json :=
  members.lookup key

/-- Sets a key: in its old place if the object has it, at the end otherwise. -/
def Members.put : Members → String → Json → Members
  | [], key, value => [(key, value)]
  | (k, v) :: rest, key, value =>
    if k = key then (key, value) :: rest else (k, v) :: Members.put rest key value

/-- Each key once, at its first place and with its last value. -/
def Members.merge (members : Members) : Members :=
  members.foldl (fun merged member => merged.put member.1 member.2) []

mutual

/-- The value with every object in it merged. -/
def merged : Json → Json
  | .arr items => .arr (mergedItems items)
  | .obj members => .obj (Members.merge (mergedMembers members))
  | value => value

/-- The values of an array, merged. -/
def mergedItems : List Json → List Json
  | [] => []
  | item :: rest => merged item :: mergedItems rest

/-- The members of an object with their values merged. -/
def mergedMembers : List (String × Json) → List (String × Json)
  | [] => []
  | (key, value) :: rest => (key, merged value) :: mergedMembers rest

end

/-- The member of an object; `none` for a missing key and for a value that is no object. -/
def get? : Json → String → Option Json
  | .obj members, key => Members.get? members key
  | _, _ => none

/-- An object with one member. -/
def field (key : String) (value : Json) : Json :=
  .obj [(key, value)]

/-- An array of strings. -/
def strings (texts : List String) : Json :=
  .arr (texts.map .str)

/-- A string, or null where there is none. -/
def ofText? : Option String → Json
  | none => .null
  | some s => .str s

/-- Whether a value is null. -/
def isNull : Json → Bool
  | .null => true
  | _ => false

/-- An object of the members that are not null. -/
def given (members : List (String × Json)) : Json :=
  .obj (members.filter fun member => !member.2.isNull)

end Json

end EventCatalog
