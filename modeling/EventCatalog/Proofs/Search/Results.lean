/-
# EventCatalog.Proofs.Search.Results — stored events come back unchanged

The store answers a search with the documents that were written into it, inside objects with
members of its own.  A member that stands once in an object is found there, whatever else the
object holds (`readMember_of_once`); the total and the list of hits are two members of one
object, in either order (`readParts_of_members`).  So a response that counts some matches and
lists the documents of some events is read as that count and those events
(`ofResponse_of_reports`).
-/
import Mathlib.Data.List.Forall2
import EventCatalog.Proofs.Catalog.Document
import EventCatalog.Proofs.Outcome
import EventCatalog.Search.Results

set_option autoImplicit false

namespace EventCatalog

/-- Whether an object holds a key once, with a value, among any other members. -/
def Json.HoldsOnce (object : Json) (key : String) (value : Json) : Prop :=
  ∃ members, object = .obj members ∧ members.filter (fun m => m.1 = key) = [(key, value)]

namespace SearchResults

/-- Whether a response counts a number of matches and lists the documents of events, each in a
hit of its own. -/
def Reports (response : Json) (total : Nat) (events : List Event) : Prop :=
  ∃ answer count hits, response.HoldsOnce "hits" answer ∧
    answer.HoldsOnce "total" count ∧ count.HoldsOnce "value" (.int total) ∧
    answer.HoldsOnce "hits" (.arr hits) ∧
    List.Forall₂ (fun hit (event : Event) => hit.HoldsOnce "_source" event.document) hits events

section Members

variable {α : Type} {name : String} {read : Json → Except DocumentError α} {a : α}
  {members : List (String × Json)} {value : Json}

theorem readMember_of_absent (absent : members.filter (fun m => m.1 = name) = []) :
    readMember name read (some a) members = .ok a := by
  induction members with
  | nil => rfl
  | cons member rest ih =>
    have other : ¬member.1 = name := fun same => by simp [same] at absent
    rw [readMember, if_neg other]
    exact ih (by simpa [other] using absent)

/-- A member that stands once is read, and nothing else. -/
theorem readMember_of_once (once : members.filter (fun m => m.1 = name) = [(name, value)])
    (good : read value = .ok a) : readMember name read none members = .ok a := by
  induction members with
  | nil => cases once
  | cons member rest ih =>
    rw [readMember]
    by_cases here : member.1 = name
    · rw [List.filter_cons_of_pos (by simpa using here)] at once
      obtain ⟨rfl, absent⟩ := List.cons.inj once
      rw [if_pos rfl, good]
      exact readMember_of_absent absent
    · rw [List.filter_cons_of_neg (by simpa using here)] at once
      rw [if_neg here]
      exact ih once

theorem readOnly_of_holdsOnce {object : Json} (held : object.HoldsOnce name value)
    (good : read value = .ok a) : readOnly name read object = .ok a := by
  obtain ⟨members, rfl, once⟩ := held
  exact readMember_of_once once good

end Members

/-- The total and the list of hits are read like any two members of one object. -/
theorem readParts_of_members {members : List (String × Json)} {total : Option Nat}
    {events : Option (List Event)} {n : Nat} {found : List Event}
    (counted : readMember "total" (readOnly "value" readCount) total members = .ok n)
    (listed : readMember "hits" readHitList events members = .ok found) :
    readParts total events members = .ok ⟨n, found⟩ := by
  induction members generalizing total events with
  | nil =>
    cases total with
    | none => cases counted
    | some n' =>
      cases events with
      | none => cases listed
      | some events' =>
        cases counted
        cases listed
        rfl
  | cons member rest ih =>
    obtain ⟨key, value⟩ := member
    rw [readMember] at counted listed
    rw [readParts]
    by_cases isTotal : key = "total"
    · have notHits : ¬key = "hits" := by rw [isTotal]; decide
      rw [if_pos isTotal] at counted ⊢
      rw [if_neg notHits] at listed
      obtain ⟨n', good, counted⟩ := Outcome.bind_eq_ok_iff.1 counted
      rw [good]
      exact ih counted listed
    · rw [if_neg isTotal] at counted ⊢
      by_cases isHits : key = "hits"
      · rw [if_pos isHits] at listed ⊢
        obtain ⟨events', good, listed⟩ := Outcome.bind_eq_ok_iff.1 listed
        rw [good]
        exact ih counted listed
      · rw [if_neg isHits] at listed ⊢
        exact ih counted listed

/-- Hits with the documents of events are read as those events. -/
theorem readHits_of_holdsOnce {hits : List Json} {events : List Event}
    (writable : ∀ event ∈ events, event.Writable)
    (each : List.Forall₂ (fun hit (event : Event) => hit.HoldsOnce "_source" event.document)
      hits events) : readHits hits = .ok events := by
  induction each with
  | nil => rfl
  | @cons hit event hits events held _ ih =>
    have source := readOnly_of_holdsOnce held
      (Event.ofDocument_document (writable event List.mem_cons_self))
    rw [readHits, source, ih fun event later => writable event (List.mem_cons_of_mem _ later)]
    rfl

/-- **Stored events come back unchanged.**  A response that counts some matches and lists the
documents of some events, among whatever else its objects hold, is read as that count and those
events, in order.  The events have finite numbers and timestamps with an offset of whole minutes
and a year of four digits; every field, set or not, is as it was. -/
theorem ofResponse_of_reports {response : Json} {total : Nat} {events : List Event}
    (fits : total ≤ Text.greatest64) (writable : ∀ event ∈ events, event.Writable)
    (reports : Reports response total events) :
    ofResponse response = .ok ⟨total, events⟩ := by
  obtain ⟨answer, count, hits, answered, counted, value, listed, each⟩ := reports
  have read : readCount (.int total) = .ok total :=
    if_pos ⟨Int.natCast_nonneg total, Int.ofNat_le.2 fits⟩
  obtain ⟨members, rfl, totalOnce⟩ := counted
  obtain ⟨_, same, hitsOnce⟩ := listed
  cases same
  refine readOnly_of_holdsOnce answered ?_
  exact readParts_of_members (readMember_of_once totalOnce (readOnly_of_holdsOnce value read))
    (readMember_of_once hitsOnce (readHits_of_holdsOnce writable each))

/-- Two events, one of them without a field, in a response with members of its own; the other
event starts in a second 60. -/
theorem ofResponse_of_reports_sixty :
    let start : Calendar.Timestamp := ⟨1722727859, 1250000000, -14400, by decide, by decide⟩
    let event : Event := ⟨fun
      | .title => some "Paint \"Night\""
      | .maxPlayers => some (12 : Int64)
      | .eventType => some EventType.workshop
      | .duration => some (1.5 : Float)
      | .startDateTime => some start
      | _ => none⟩
    let hits : List Json := [.obj [("_id", .str "A1"), ("_source", event.document)],
      .obj [("_source", Event.empty.document), ("_id", .str "A2")]]
    let response : Json := .obj [("took", .int 3), ("hits", .obj [("hits", .arr hits),
      ("max_score", .null), ("total", .obj [("value", .int 2), ("relation", .str "eq")])])]
    start.stored = "2024-08-03T19:30:60.250-04:00" ∧ 2 ≤ Text.greatest64 ∧
      (∀ e ∈ [event, Event.empty], e.Writable) ∧ Reports response 2 [event, Event.empty] ∧
      ofResponse response = .ok ⟨2, [event, Event.empty]⟩ := by
  intro start event hits response
  have good : event.Writable := by
    intro field value same
    cases field with
    | title | maxPlayers | eventType => trivial
    | duration =>
      cases same
      show Float.isFinite 1.5 = true
      decide
    | startDateTime =>
      cases same
      exact ⟨by decide, by decide, by decide +kernel, by decide +kernel⟩
    | _ => cases same
  have writable : ∀ e ∈ [event, Event.empty], e.Writable := by
    intro e member
    rcases List.mem_pair.1 member with rfl | rfl
    · exact good
    · intro field value same
      cases same
  have reports : Reports response 2 [event, Event.empty] :=
    ⟨_, _, _, ⟨_, rfl, rfl⟩, ⟨_, rfl, rfl⟩, ⟨_, rfl, rfl⟩, ⟨_, rfl, rfl⟩,
      .cons ⟨_, rfl, rfl⟩ (.cons ⟨_, rfl, rfl⟩ .nil)⟩
  exact ⟨by decide +kernel, by decide, writable, reports,
    ofResponse_of_reports (by decide) writable reports⟩

end SearchResults

end EventCatalog
