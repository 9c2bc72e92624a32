/-
# EventCatalog.Text.Quoted — text in descriptions

Settings are described with their texts between quotation marks.  A quotation mark and a
backslash are escaped by a backslash; a null, a tab and a line end have short escapes.

A description has to show what it describes, so a character is written by its number if it
cannot be seen, or if it would be drawn on the one before, which may be the quotation mark.
-/
import EventCatalog.Text.Extender
import EventCatalog.Text.Visible

set_option autoImplicit false

namespace EventCatalog.Text

/-- The two sound marks of halfwidth Katakana extend the character before them, but take a
place of their own. -/
def isSoundMark (c : Char) : Bool := c = '\uFF9E' || c = '\uFF9F'

/-- Whether a character is written by its number. -/
def isNumbered (c : Char) : Bool :=
  !isVisible c || (isExtender c && !isSoundMark c)

/-- A character as it stands between quotation marks. -/
def quoteChar (c : Char) : List Char :=
  if c = '"' ∨ c = '\\' then ['\\', c]
  else if c = '\x00' then ['\\', '0']
  else if c = '\t' then ['\\', 't']
  else if c = '\n' then ['\\', 'n']
  else if c = '\r' then ['\\', 'r']
  else if isNumbered c then
    '\\' :: 'u' :: '\x7B' :: Nat.toDigits 16 c.toNat ++ ['\x7D']
  else [c]

/-- A string between quotation marks. -/
def quote (s : String) : String :=
  String.ofList ('"' :: s.toList.flatMap quoteChar ++ ['"'])

/-- A string that may be missing. -/
def quote? : Option String → String
  | none => "None"
  | some s => "Some(" ++ quote s ++ ")"

end EventCatalog.Text
