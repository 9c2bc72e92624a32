/-
# EventCatalog.CommandLine.Program — running a command

A run reads its arguments, then the file of variables, then the settings, and then does
what it was asked for.  The first of these that fails ends the run: a misuse with status
2, anything else with status 1 and a message.  Help is no failure.

Loading a spreadsheet fails if the store refuses one of its events, even though all the
others have been written.
-/
import EventCatalog.CommandLine.Arguments
import EventCatalog.CommandLine.EnvironmentFile
import EventCatalog.Spreadsheet.Loading
import EventCatalog.Store.Client

set_option autoImplicit false

namespace EventCatalog.CommandLine

/-- How a run ends. -/
structure Exit where
  status : Nat
  message : Option String := none
  deriving DecidableEq, Repr

/-- The end of a run that did what it was asked for. -/
def Exit.success : Exit := ⟨0, none⟩

/-- The end of a run that failed. -/
def Exit.failure (message : String) : Exit := ⟨1, some message⟩

/-- How a run ends that did not get as far as a command. -/
def Stop.exit : Stop → Exit
  | .help => ⟨0, none⟩
  | .misuse => ⟨2, none⟩

/-- What a run is to do, once its arguments and settings are known. -/
structure Plan where
  verbose : Bool
  command : Command
  settings : Settings

/-- The plan of a run, or how it ends before it does anything.  The file of variables may
be missing. -/
def plan (args : List String) (env : Environment) (written : Option String) :
    Except Exit Plan :=
  match read args with
  | .error stop => .error stop.exit
  | .ok (verbose, command) =>
    let env := match written with
      | some file => EnvironmentFile.apply env file
      | none => env
    match Settings.ofEnvironment env with
    | .error e => .error (.failure e.message)
    | .ok settings => .ok ⟨verbose, command, settings⟩

/-- The port that a service listens on. -/
def servicePort (settings : Settings) (port : Option Nat) : Nat :=
  port.getD settings.port

variable {m : Type → Type} [Monad m]

/-- Puts the template of the index. -/
def runInit (link : Link m) (settings : Settings) : m Exit := do
  match ← Store.putTemplate link settings with
  | .ok () => return .success
  | .error e => return .failure e.message

/-- How a run ends that has written events. -/
def exitOfWriting : Except StoreError WriteSummary → Exit
  | .error e => .failure e.message
  | .ok summary =>
    if summary.failures.isEmpty then .success
    else .failure
      (String.ofList (Text.digits summary.failures.length) ++ " events were rejected by the store")

/-- Writes the events of a spreadsheet into the index; the file may be missing. -/
def runLoad (link : Link m) (settings : Settings) (file : String)
    (octets : Option (List UInt8)) : m Exit := do
  match octets.map Loading.ofOctets with
  | some (.ok loading) => return exitOfWriting (← Store.writeEvents link settings loading.events)
  | some (.error _) | none => return .failure ("Failed to load events from " ++ file)

end EventCatalog.CommandLine
