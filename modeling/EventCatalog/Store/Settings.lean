/-
# EventCatalog.Store.Settings — how the program is set up

The settings come from six environment variables, each with a default: where the store
is, who signs in, which index holds the events, how many events are written at once, and
the port of the service.  A batch has at least one event (`batchSize_pos`).  Of two faults
the batch size is reported.

The description of the settings never shows the password.
-/
import EventCatalog.Text.Integer
import EventCatalog.Text.Quoted

set_option autoImplicit false

namespace EventCatalog

/-- What the program is told by its environment. -/
structure Settings where
  /-- Where the store is, without slashes at the end. -/
  address : String
  username : Option String
  password : Option String
  /-- The index that holds the events. -/
  index : String
  /-- How many events are written at once. -/
  batchSize : Nat
  /-- The port of the service. -/
  port : Nat
  deriving DecidableEq, Repr

/-- Why the environment gives no settings. -/
inductive SettingsError where
  | batchSizeNotNumber
  | batchSizeZero
  | portNotNumber
  deriving DecidableEq, Repr

/-- The message for a cause. -/
def SettingsError.message : SettingsError → String
  | .batchSizeNotNumber => "BATCH_SIZE must be a number"
  | .batchSizeZero => "BATCH_SIZE must be greater than 0"
  | .portNotNumber => "PORT must be a valid port number"

/-- Variables of an environment with their values. -/
abbrev Environment := List (String × String)

namespace Settings

/-- The address of a store on the same machine. -/
def defaultAddress : String := "http://localhost:9200"

/-- The index that is used unless another is named. -/
def defaultIndex : String := "event_index"

/-- How many events are written at once unless the environment says otherwise. -/
def defaultBatchSize : Nat := 100

/-- The port of the service unless the environment says otherwise. -/
def defaultPort : Nat := 8080

/-- A text without the slashes at its end. -/
def dropTrailingSlashes (s : String) : String :=
  String.ofList (s.toList.reverse.dropWhile (· = '/')).reverse

/-- Reads a number from a variable, with a default if it is not set. -/
def readNumber (value : Option String) (absent greatest : Nat) (error : SettingsError) :
    Except SettingsError Nat :=
  match value with
  | none => .ok absent
  | some s =>
    match Text.readUnsigned greatest s.toList with
    | some n => .ok n
    | none => .error error

/-- The settings that an environment gives. -/
def ofEnvironment (env : Environment) : Except SettingsError Settings := do
  let batchSize ← readNumber (env.lookup "BATCH_SIZE") defaultBatchSize Text.greatest64
    .batchSizeNotNumber
  if batchSize = 0 then .error .batchSizeZero else
    let port ← readNumber (env.lookup "PORT") defaultPort Text.greatest16 .portNotNumber
    return {
      address := dropTrailingSlashes ((env.lookup "OS_ADDRESS").getD defaultAddress)
      username := (env.lookup "OS_USERNAME").filter (· ≠ "")
      password := (env.lookup "OS_PASSWORD").filter (· ≠ "")
      index := (env.lookup "EVENT_INDEX").getD defaultIndex
      batchSize, port }

/-- A record with named parts, between braces. -/
def describeRecord (name : String) (parts : List (String × String)) : String :=
  name ++ " \x7B " ++ ", ".intercalate (parts.map fun part => part.1 ++ ": " ++ part.2)
    ++ " \x7D"

/-- A description of the settings. -/
def describe (settings : Settings) : String :=
  describeRecord "AppConfig"
    [("os_address", Text.quote settings.address),
     ("os_username", Text.quote? settings.username),
     ("event_index", Text.quote settings.index),
     ("batch_size", String.ofList (Text.digits settings.batchSize)),
     ("port", String.ofList (Text.digits settings.port))]

/-- A description of the store that the settings name. -/
def describeStore (settings : Settings) : String :=
  describeRecord "OpenSearchClient"
    [("base_url", Text.quote settings.address),
     ("index", Text.quote settings.index),
     ("batch_size", String.ofList (Text.digits settings.batchSize))]

theorem batchSize_pos {env : Environment} {settings : Settings}
    (h : ofEnvironment env = .ok settings) : 0 < settings.batchSize := by
  unfold ofEnvironment at h
  cases hb : readNumber (env.lookup "BATCH_SIZE") defaultBatchSize Text.greatest64
      .batchSizeNotNumber with
  | error e => rw [hb] at h; exact absurd h (by simp [bind, Except.bind])
  | ok n =>
    rw [hb] at h
    simp only [bind, Except.bind] at h
    split at h
    · exact absurd h (by simp)
    · rename_i hn
      split at h
      · exact absurd h (by simp)
      · simp only [pure, Except.pure, Except.ok.injEq] at h
        rw [← h]
        exact Nat.pos_of_ne_zero hn

end Settings

end EventCatalog
