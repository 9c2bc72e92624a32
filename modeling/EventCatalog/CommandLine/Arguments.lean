/-
# EventCatalog.CommandLine.Arguments — what the program is asked to do

There are three commands: `serve`, which takes a port, `init`, and `load`, which needs a
file; and `--verbose` goes with all of them.  Arguments are read from left to right, and
the first thing that decides ends the reading: an argument that is not understood is a
misuse, and a call for help is help, even if something is missing behind it.

An option has a long name and a letter.  Its value is the next argument, or what follows
an equals sign or the letter itself.  A next argument that begins like an option is no
value.  Nothing may be given twice within a command.
-/
import EventCatalog.Text.Integer
import EventCatalog.Text.Split

set_option autoImplicit false

namespace EventCatalog.CommandLine

/-- How the program is called. -/
def usage : String :=
  "Usage: [-v|--verbose] serve [-p|--port PORT] | init | load -f|--file FILE"

/-- What the program can do. -/
inductive Command where
  /-- Answer searches, on a port that may differ from the settings. -/
  | serve (port : Option Nat)
  /-- Put the template of the index. -/
  | init
  /-- Write the events of a spreadsheet into the index. -/
  | load (file : String)
  deriving DecidableEq, Repr

/-- What ends the reading of arguments before there is a command. -/
inductive Stop where
  | help
  | misuse
  deriving DecidableEq, Repr

/-- The names of the commands. -/
inductive Name where
  | serve
  | init
  | load
  deriving DecidableEq, Repr

/-- The command with a name. -/
def Name.read? (s : String) : Option Name :=
  if s = "serve" then some .serve
  else if s = "init" then some .init
  else if s = "load" then some .load
  else none

/-- The letter and the long name of a command's option. -/
def Name.option? : Name → Option (Char × String)
  | .serve => some ('p', "port")
  | .init => none
  | .load => some ('f', "file")

/-- What has been read behind the name of a command. -/
structure Given where
  verbose : Bool := false
  value : Option String := none

/-- Takes note of the flag, which may be given once. -/
def Given.flag (given : Given) : Except Stop Given :=
  if given.verbose then .error .misuse else .ok { given with verbose := true }

/-- The port that a text names: a whole number, perhaps with a sign, that has sixteen
bits.  So `-0` is a port. -/
def readPort (value : String) : Option Nat :=
  (Text.readSigned value.toList).bind fun n =>
    if 0 ≤ n ∧ n ≤ Text.greatest16 then some n.toNat else none

/-- Takes note of the option's value, which may be given once and has to be of use: a
value of `serve` is a port, and the name of a file is not empty. -/
def Given.take (given : Given) (name : Name) (value : String) : Except Stop Given :=
  let fits := match name with
    | .serve => (readPort value).isSome
    | .init => false
    | .load => value ≠ ""
  if given.value.isSome || !fits then .error .misuse
  else .ok { given with value := some value }

/-- Whether an argument stands for options: it begins with a hyphen and is more than
that. -/
def isOption (arg : String) : Bool :=
  match arg.toList with
  | '-' :: _ :: _ => true
  | _ => false

/-- What letters behind one hyphen ask for. -/
inductive Letters where
  /-- Flags only. -/
  | done (given : Given)
  /-- The option, whose value is the next argument. -/
  | awaits (given : Given)

/-- Reads letters behind one hyphen. -/
def readLetters (name : Name) (given : Given) : List Char → Except Stop Letters
  | [] => .ok (.done given)
  | c :: rest =>
    if c = 'v' then do readLetters name (← given.flag) rest
    else if c = 'h' then .error .help
    else if (name.option?.map Prod.fst) = some c then
      match rest with
      | [] => .ok (.awaits given)
      | rest => (given.take name (String.ofList (Text.dropLeading '=' rest))).map .done
    else .error .misuse

/-- Reads the arguments behind the name of a command.  `awaits` tells that the option has
been named and its value is next. -/
def readGiven (name : Name) (awaits : Bool) (given : Given) :
    List String → Except Stop Given
  | [] => if awaits then .error .misuse else .ok given
  | arg :: rest =>
    if awaits then
      if isOption arg then .error .misuse
      else do readGiven name false (← given.take name arg) rest
    else if arg = "--" then if rest = [] then .ok given else .error .misuse
    else match arg.toList with
      | '-' :: '-' :: long =>
        if long = "verbose".toList then do readGiven name false (← given.flag) rest
        else if long = "help".toList then .error .help
        else match name.option? with
          | none => .error .misuse
          | some (_, option) =>
            if long = option.toList then readGiven name true given rest
            else match Text.splitOnce '=' long with
              | some (word, value) =>
                if word = option.toList then do
                  readGiven name false (← given.take name (String.ofList value)) rest
                else .error .misuse
              | none => .error .misuse
      | '-' :: c :: letters =>
        match readLetters name given (c :: letters) with
        | .error stop => .error stop
        | .ok (.done given) => readGiven name false given rest
        | .ok (.awaits given) => readGiven name true given rest
      | _ => .error .misuse

/-- The command that a name and what was given behind it make. -/
def Given.command (given : Given) : Name → Except Stop Command
  | .serve =>
    .ok (.serve (given.value.bind readPort))
  | .init => .ok .init
  | .load =>
    match given.value with
    | some file => .ok (.load file)
    | none => .error .misuse

/-- Reads what follows the word `help`: the names of commands to be explained. -/
def readHelp : List String → Stop
  | [] => .help
  | [name] => if (Name.read? name).isSome || name = "help" then .help else .misuse
  | _ => .misuse

/-- Reads flags given as letters before a command. -/
def readFlags (verbose : Bool) : List Char → Except Stop Bool
  | [] => .ok verbose
  | c :: rest =>
    if c = 'v' then if verbose then .error .misuse else readFlags true rest
    else if c = 'h' then .error .help
    else .error .misuse

/-- Reads the arguments of the program, after flags that were given before a command. -/
def readFrom (verbose : Bool) : List String → Except Stop (Bool × Command)
  | [] => .error .misuse
  | arg :: rest =>
    if arg = "--verbose" then if verbose then .error .misuse else readFrom true rest
    else if arg = "--help" then .error .help
    else match Name.read? arg with
      | some name => do
        let given ← readGiven name false {} rest
        let command ← given.command name
        return (verbose || given.verbose, command)
      | none =>
        if arg = "help" then .error (readHelp rest)
        else match arg.toList with
          | '-' :: '-' :: _ => .error .misuse
          | '-' :: c :: letters => do readFrom (← readFlags verbose (c :: letters)) rest
          | _ => .error .misuse

/-- Reads the arguments of the program: whether it is to be verbose, and its command. -/
def read (args : List String) : Except Stop (Bool × Command) :=
  readFrom false args

end EventCatalog.CommandLine
