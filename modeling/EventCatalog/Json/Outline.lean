/-
# EventCatalog.Json.Outline — JSON text without its numbers

Whoever reads a few parts of a text and skips the others does not ask for the values of the
others.  An outline is what such a reader sees: how a text is built, and the strings in it as
far as their escapes name characters.  Whatever is JSON by its grammar has an outline, so a
number may be too large for any value, a surrogate may stand alone, and arrays and objects may
be nested to any depth.
-/
import EventCatalog.Json.Reader

set_option autoImplicit false

namespace EventCatalog

/-- What can be seen of a JSON text without reading its numbers. -/
inductive Outline where
  | null
  | bool (b : Bool)
  /-- A number of any value. -/
  | number
  /-- A string; `none` if an escape in it names no character. -/
  | str (text : Option String)
  | arr (items : List Outline)
  | obj (members : List (Option String × Outline))
  deriving Inhabited

namespace Json

/-- The text behind a string, from behind its opening quotation mark.  Its escapes have the form
of escapes, but need not name characters. -/
def skipString : List Char → Option (List Char)
  | [] => none
  | c :: rest =>
    if c = '"' then some rest
    else if c = '\\' then
      match rest with
      | 'u' :: h₁ :: h₂ :: h₃ :: h₄ :: rest =>
        if (hexWord h₁ h₂ h₃ h₄).isSome then skipString rest else none
      | e :: rest => if (shortEscape e).isSome then skipString rest else none
      | [] => none
    else if c.toNat < 0x20 then none
    else skipString rest

/-- Reads a string if it names its characters, and skips it otherwise. -/
def readQuoted? : Reader (Option String) := fun s =>
  match readQuoted s with
  | some (text, rest) => some (some text, rest)
  | none => (skipString s).map fun rest => (none, rest)

/-- Makes outlines. -/
def inOutline : Builder (Option String) Outline where
  key := readQuoted?
  str s := (readQuoted? s).map fun r => (.str r.1, r.2)
  number s := (readNumeral s).map fun r => (.number, r.2)
  null := .null
  bool := .bool
  arr := .arr
  obj := .obj

/-- Reads the outline of a text.  Arrays and objects are never nested deeper than the text is
long. -/
def readOutline (s : List Char) : Option Outline := inOutline.readText s.length s

end Json

end EventCatalog
