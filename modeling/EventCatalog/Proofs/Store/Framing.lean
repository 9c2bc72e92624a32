/-
# EventCatalog.Proofs.Store.Framing — the lines of a bulk body

The store takes a bulk body line by line.  An event is two lines, and no content of an event
makes it more or fewer: what is printed has no line end (`inline_of_mem_texts`), so the ends in
the body are those that the client wrote.  Whatever an id holds, the action that is read back
from its line has the same index and the same id (`read_action`).
-/
import Mathlib.Data.List.Basic
import EventCatalog.Proofs.Json.Inline
import EventCatalog.Proofs.Json.Readable
import EventCatalog.Proofs.Text.Pieces
import EventCatalog.Store.Bulk

set_option autoImplicit false

namespace EventCatalog.Bulk

variable {index : String} {events : List Event}

/-! ## Lines -/

/-- The texts of a bulk body, two for each event. -/
def texts (index : String) (events : List Event) : List (List Char) :=
  events.flatMap fun event => [(action index event).print, event.document.print]

theorem length_texts (index : String) (events : List Event) :
    (texts index events).length = 2 * events.length := by
  induction events with
  | nil => rfl
  | cons event events ih =>
    rw [texts, List.flatMap_cons, List.length_append, ← texts, ih, List.length_cons]
    simp
    omega

theorem inline_of_mem_texts {text : List Char} (listed : text ∈ texts index events) :
    Text.Inline text := by
  obtain ⟨event, -, line⟩ := List.mem_flatMap.1 listed
  rcases List.mem_pair.1 line with rfl | rfl
  · exact Json.inline_print _
  · exact Json.inline_print _

theorem toList_body (index : String) (events : List Event) :
    (body index events).toList = (texts index events).flatMap fun text => text ++ ['\n'] := by
  rw [body, String.toList_ofList, texts, List.flatMap_assoc, List.flatMap_assoc]
  rfl

/-! ## Actions -/

/-- **An action is read as it was printed**, whatever its index and its id hold. -/
theorem read_action (index : String) (event : Event) :
    Json.read (action index event).compact = some (action index event) := by
  have readable (fuel : Nat) (room : 2 ≤ fuel) :
      Json.Readable fuel Json.greatestDepth (action index event) := by
    apply Json.readable_obj
    · intro member listed
      rcases List.mem_singleton.1 listed with rfl
      apply Json.readable_obj
      · intro member listed
        rcases List.mem_pair.1 listed with rfl | rfl
        · exact Json.readable_str fuel _ _
        · exact Json.readable_str fuel _ _
      · exact room
    · exact Nat.le_of_succ_le room
  have long : 2 ≤ (action index event).print.length := by
    simp [action, Json.field, Json.print, Json.quoted]
  have bare := (readable _ long).bare []
  have read := (readable _ long).read []
  rw [List.append_nil] at bare read
  rw [Json.read, Json.compact, String.toList_ofList, Json.readAsWritten, Json.Builder.readText,
    bare, read]
  rfl

/-- **No content of an event breaks the lines of a bulk body.**  Cut at its line ends, the body
of events with a game id is the action and the document of each of them, in order, and then
nothing.  Each action is read as the index of the body and the key of its event.  A character
below U+0020 is one of the line ends, of which there are two for each event. -/
theorem body_framed (index : String) {events : List Event}
    (stored : ∀ event ∈ events, event.storable = true) :
    Text.split '\n' (body index events).toList =
        (events.flatMap fun event => [(action index event).print, event.document.print]) ++ [[]] ∧
      (∀ event ∈ events, ∃ key, event.key? = some key ∧
        Json.read (action index event).compact =
          some (.field "index" (.obj [("_index", .str index), ("_id", .str key)]))) ∧
      (∀ c ∈ (body index events).toList, c.toNat < 0x20 → c = '\n') ∧
      (body index events).toList.count '\n' = 2 * events.length := by
  have free : ∀ text ∈ texts index events, '\n' ∉ text :=
    fun text listed => (inline_of_mem_texts listed).lineEnd_not_mem
  rw [toList_body]
  refine ⟨Text.split_flatMap_ended free, ?_, ?_, ?_⟩
  · intro event listed
    obtain ⟨key, has⟩ := Option.isSome_iff_exists.1 (stored event listed)
    refine ⟨key, has, ?_⟩
    rw [read_action, action, has]
    rfl
  · intro c listed low
    obtain ⟨text, within, member⟩ := List.mem_flatMap.1 listed
    rcases List.mem_append.1 member with inside | last
    · exact absurd (inline_of_mem_texts within c inside) (Nat.not_le.2 low)
    · exact List.mem_singleton.1 last
  · rw [Text.count_flatMap_ended free, length_texts]

/-- A title that looks like an action, and a game id with a line end and a quotation mark. -/
theorem body_framed_forged :
    let forged := "x\"\x7D\n\x7B\"index\":\x7B\"_index\":\"other\",\"_id\":\"y\"\x7D\x7D\n"
    let events := [Event.empty.set .gameId (some "A1\n\""),
      (Event.empty.set .gameId (some "A2")).set .title (some forged)]
    (∀ event ∈ events, event.storable = true) ∧
      (Text.split '\n' (body "events" events).toList).length = 5 ∧
      (body "events" events).toList.count '\n' = 4 ∧
      ∀ event ∈ events, ∃ key ∈ ["A1\n\"", "A2"], Json.read (action "events" event).compact =
        some (.field "index" (.obj [("_index", .str "events"), ("_id", .str key)])) := by
  intro forged events
  have stored : ∀ event ∈ events, event.storable = true := by decide
  have keys : ∀ event ∈ events, ∀ key, event.key? = some key → key ∈ ["A1\n\"", "A2"] := by decide
  obtain ⟨lines, actions, -, ends⟩ := body_framed "events" stored
  refine ⟨stored, ?_, ends, ?_⟩
  · rw [lines]
    rfl
  · intro event listed
    obtain ⟨key, has, read⟩ := actions event listed
    exact ⟨key, keys event listed key has, read⟩

end EventCatalog.Bulk
