/-
# EventCatalog.CommandLine.EnvironmentFile — variables from a file

A file may give variables that the environment does not have.  A line is a name, an equals
sign and a value; `export` may stand in front, and blank lines and lines that begin with a
number sign say nothing.  A variable that is already set keeps its value, and the first
line that cannot be read ends the reading.

A value is plain up to the first blank, behind which only a comment may stand.  Between
single quotation marks every character stands for itself.  Elsewhere a backslash escapes
a few characters, and a dollar sign names a variable whose value stands in its place:
letters and numbers of any script behind it, or anything between braces.  The environment
is asked first, then the lines above; a variable that neither has is empty.
-/
import EventCatalog.Store.Settings
import EventCatalog.Text.Alphanumeric
import EventCatalog.Text.Split

set_option autoImplicit false

namespace EventCatalog.EnvironmentFile

/-! ## Values -/

/-- How the text at hand is read. -/
inductive Mode where
  | plain
  /-- Between single quotation marks. -/
  | strong
  /-- Between double quotation marks. -/
  | weak
  /-- Behind a blank: only a comment may follow. -/
  | ended
  deriving DecidableEq, Repr

/-- What a dollar sign has begun. -/
inductive Naming where
  /-- Nothing. -/
  | none
  /-- A name of letters and numbers. -/
  | bare
  /-- A name between braces. -/
  | braced
  deriving DecidableEq, Repr

/-- The state of reading a value. -/
structure Reading where
  mode : Mode := .plain
  /-- Whether a backslash stands before the next character. -/
  escaped : Bool := false
  naming : Naming := .none
  /-- The name that a dollar sign has begun, last character first. -/
  name : List Char := []
  /-- The value so far, last character first. -/
  output : List Char := []

/-- Puts a character at the end of the value. -/
def Reading.push (reading : Reading) (c : Char) : Reading :=
  { reading with output := c :: reading.output }

/-- Puts the value of the variable whose name has been read at the end of the value. -/
def Reading.substitute (values : String → String) (reading : Reading) : Reading :=
  let value := values (String.ofList reading.name.reverse)
  { reading with name := [], naming := .none, output := value.toList.reverse ++ reading.output }

/-- The character that an escape stands for. -/
def escapeOf (c : Char) : Option Char :=
  if c = '\\' ∨ c = '\'' ∨ c = '"' ∨ c = '$' ∨ c = ' ' then some c
  else if c = 'n' then some '\n'
  else none

/-- Whether a character belongs to a name behind a dollar sign. -/
def isNameChar (c : Char) : Bool := Text.isAlphanumeric c

/-- Reads a character behind a dollar sign. -/
def stepName (values : String → String) (reading : Reading) (c : Char) : Reading :=
  if isNameChar c then { reading with name := c :: reading.name }
  else if reading.naming = .braced then
    if c = '\x7D' then reading.substitute values
    else { reading with name := c :: reading.name }
  else if c = '\x7B' ∧ reading.name = [] then { reading with naming := .braced }
  else
    let reading := reading.substitute values
    if c = '$' then { reading with naming := .bare } else reading.push c

/-- Reads a character of a value, outside single quotation marks and names. -/
def stepText (reading : Reading) (c : Char) : Reading :=
  if c = '$' then { reading with naming := .bare }
  else if reading.mode = .weak then
    if c = '"' then { reading with mode := .plain }
    else if c = '\\' then { reading with escaped := true }
    else reading.push c
  else if c = '\'' then { reading with mode := .strong }
  else if c = '"' then { reading with mode := .weak }
  else if c = '\\' then { reading with escaped := true }
  else if c = ' ' ∨ c = '\t' then { reading with mode := .ended }
  else reading.push c

/-- Reads the characters of a value. -/
def readFrom (values : String → String) (reading : Reading) : List Char → Option Reading
  | [] => some reading
  | c :: rest =>
    if reading.mode = .ended then
      if c = ' ' ∨ c = '\t' then readFrom values reading rest
      else if c = '#' then some reading
      else none
    else if reading.escaped then
      match escapeOf c with
      | some c => readFrom values { reading.push c with escaped := false } rest
      | none => none
    else if reading.mode = .strong then
      if c = '\'' then readFrom values { reading with mode := .plain } rest
      else readFrom values (reading.push c) rest
    else if reading.naming ≠ .none then readFrom values (stepName values reading c) rest
    else readFrom values (stepText reading c) rest

/-- Reads a value; a quotation mark or a brace that is not closed makes it unreadable. -/
def readValue (values : String → String) (s : List Char) : Option String :=
  match readFrom values {} s with
  | none => none
  | some reading =>
    if reading.naming = .braced ∨ reading.mode = .strong ∨ reading.mode = .weak then none
    else some (String.ofList (reading.substitute values).output.reverse)

/-! ## Lines -/

/-- Whether a name may begin with a character. -/
def beginsName (c : Char) : Bool := c.isAlpha || c = '_'

/-- Whether a character may stand in a name. -/
def inName (c : Char) : Bool := c.isAlphanum || c = '_' || c = '.'

/-- Takes a name off the front of a line, and the white space behind it. -/
def takeName : List Char → Option (String × List Char)
  | [] => none
  | c :: rest =>
    if beginsName c then
      some (String.ofList ((c :: rest).takeWhile inName),
        Text.dropBlanks ((c :: rest).dropWhile inName))
    else none

/-- Takes an equals sign off the front of a line. -/
def takeEquals : List Char → Option (List Char)
  | '=' :: rest => some rest
  | _ => none

/-- What a line says. -/
inductive Line where
  | nothing
  | variable (name value : String)
  | unreadable
  deriving DecidableEq, Repr

/-- Whether nothing but a comment is left of a line. -/
def isComment : List Char → Bool
  | [] => true
  | c :: _ => c = '#'

/-- Takes a name and the equals sign behind it off the front of a line.  The word `export`
is a name only if an equals sign follows. -/
def takeAssignment (s : List Char) : Option (String × List Char) := do
  let (name, rest) ← takeName s
  match takeEquals rest with
  | some rest => return (name, rest)
  | none =>
    if name = "export" then
      let (name, rest) ← takeName rest
      return (name, ← takeEquals rest)
    else none

/-- Reads a line. -/
def readLine (values : String → String) (line : List Char) : Line :=
  let s := Text.trimBlanks line
  if isComment s then .nothing
  else match takeAssignment s with
    | none => .unreadable
    | some (name, rest) =>
      let rest := Text.dropBlanks rest
      if isComment rest then .variable name ""
      else match readValue values rest with
        | some value => .variable name value
        | none => .unreadable

/-- The value of a variable: that of the environment, else that of the last line above
which gives one. -/
def valueOf (env above : Environment) (name : String) : String :=
  ((env.lookup name).or (above.lookup name)).getD ""

/-- Adds to an environment what lines give, up to the first that cannot be read.  `above`
holds the variables of the lines before, last ones first. -/
def applyLines (env above : Environment) : List (List Char) → Environment
  | [] => env
  | line :: rest =>
    match readLine (valueOf env above) line with
    | .unreadable => env
    | .nothing => applyLines env above rest
    | .variable name value =>
      let env := if (env.lookup name).isSome then env else env ++ [(name, value)]
      applyLines env ((name, value) :: above) rest

/-- Adds to an environment the variables that a file gives. -/
def apply (env : Environment) (file : String) : Environment :=
  applyLines env [] (Text.split '\n' file.toList)

end EventCatalog.EnvironmentFile
