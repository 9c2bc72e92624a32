/-
# EventCatalog.Json.Printer — compact JSON text

Values are written without white space, members in their order.  Inside a string the
quotation mark, the backslash and the characters below U+0020 are escaped, by the short
form where there is one and by `\u00xx` otherwise; every other character stands for
itself.  So no control character, and no line end, is ever written (`le_of_mem_quoted`).
-/
import EventCatalog.Json.Basic
import EventCatalog.Decimal.Shortest
import EventCatalog.Text.Hex

set_option autoImplicit false

namespace EventCatalog.Json

/-- Numbers with a first digit from `10 ^ -5` to `10 ^ 15` are written in full. -/
def numberLayout : Decimal.Layout := ⟨-5, 15⟩

/-- A character as it stands inside a string. -/
def escape (c : Char) : List Char :=
  if c = '"' then ['\\', '"']
  else if c = '\\' then ['\\', '\\']
  else if c = '\x08' then ['\\', 'b']
  else if c = '\x0C' then ['\\', 'f']
  else if c = '\n' then ['\\', 'n']
  else if c = '\r' then ['\\', 'r']
  else if c = '\t' then ['\\', 't']
  else if c.toNat < 0x20 then
    ['\\', 'u', '0', '0', Text.hexDigit .small (c.toNat / 16),
      Text.hexDigit .small (c.toNat % 16)]
  else [c]

/-- A text between quotation marks. -/
def quoted (s : List Char) : List Char :=
  '"' :: s.flatMap escape ++ ['"']

/-- The text of a number with a point or exponent; what is not finite is null. -/
def floatText (x : Float) : List Char :=
  (numberLayout.writeFloat? x).getD "null".toList

mutual

/-- The compact text of a value. -/
def print : Json → List Char
  | .null => "null".toList
  | .bool true => "true".toList
  | .bool false => "false".toList
  | .int n => Text.integer n
  | .float x => floatText x
  | .str s => quoted s.toList
  | .arr [] => ['[', ']']
  | .arr (item :: rest) => '[' :: print item ++ printItems rest
  | .obj [] => ['\x7B', '\x7D']
  | .obj ((key, value) :: rest) =>
    '\x7B' :: quoted key.toList ++ ':' :: print value ++ printMembers rest

/-- The further values of an array and its end. -/
def printItems : List Json → List Char
  | [] => [']']
  | item :: rest => ',' :: print item ++ printItems rest

/-- The further members of an object and its end. -/
def printMembers : List (String × Json) → List Char
  | [] => ['\x7D']
  | (key, value) :: rest =>
    ',' :: quoted key.toList ++ ':' :: print value ++ printMembers rest

end

/-- The compact text of a value as a string. -/
def compact (value : Json) : String :=
  String.ofList (print value)

theorem le_of_mem_escape {c d : Char} (h : d ∈ escape c) : 0x20 ≤ d.toNat := by
  have hex : ∀ n, n < 16 → 0x20 ≤ (Text.hexDigit .small n).toNat := by decide
  unfold escape at h
  repeat' split at h
  all_goals simp only [List.mem_cons, List.not_mem_nil, or_false] at h
  all_goals first
    | (rcases h with rfl | rfl | rfl | rfl | rfl | rfl
       all_goals first
         | decide
         | exact hex _ (by omega))
    | (subst h; omega)

/-- Inside a quoted text stands no character below U+0020. -/
theorem le_of_mem_quoted {s : List Char} {d : Char} (h : d ∈ quoted s) : 0x20 ≤ d.toNat := by
  simp only [quoted, List.cons_append, List.mem_cons, List.mem_append, List.mem_flatMap,
    List.not_mem_nil, or_false] at h
  rcases h with rfl | ⟨c, _, hd⟩ | rfl
  · decide
  · exact le_of_mem_escape hd
  · decide

end EventCatalog.Json
