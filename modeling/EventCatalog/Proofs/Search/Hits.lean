/-
# EventCatalog.Proofs.Search.Hits — what the results of a search were read from

Where `EventCatalog.Proofs.Search.Results` says which responses can be read, this module says
what a response that was read holds.  A part that is read is the last member of its name or,
where an array stands for the object, the item at its place (`readOnly_eq_ok`).  So the number
of matches is the one that the response counts, and there is one event for each hit, in the
order of the hits: `ofResponse_eq_ok`.
-/
import EventCatalog.Proofs.Search.Results

set_option autoImplicit false

namespace EventCatalog

/-- The part of a value that has a name or a place: the last member of an object with that name,
or the item of an array at that place. -/
def Json.part? (value : Json) (name : String) (place : Nat) : Option Json :=
  match value with
  | .obj members => ((members.filter fun member => member.1 = name).getLast?).map Prod.snd
  | .arr items => items[place]?
  | _ => none

namespace SearchResults

section Members

variable {α : Type} {name : String} {read : Json → Except DocumentError α}
  {members : List (String × Json)}

/-- What was read is what stands in the last member of the name, or what stood for it before. -/
theorem readMember_eq_ok {found : Option α} {a : α}
    (h : readMember name read found members = .ok a) :
    (∃ member, (members.filter fun m => m.1 = name).getLast? = some member ∧
        read member.2 = .ok a) ∨
      (members.filter fun m => m.1 = name) = [] ∧ found = some a := by
  induction members generalizing found with
  | nil =>
    cases found with
    | none => cases h
    | some b =>
      rw [readMember] at h
      exact .inr ⟨rfl, congrArg some (Except.ok.inj h)⟩
  | cons member rest ih =>
    rw [readMember] at h
    by_cases here : member.1 = name
    · rw [if_pos here] at h
      obtain ⟨b, good, h⟩ := Outcome.bind_eq_ok_iff.1 h
      rw [List.filter_cons_of_pos (by simpa using here), List.getLast?_cons]
      rcases ih h with ⟨last, same, good'⟩ | ⟨none, same⟩
      · exact .inl ⟨last, by rw [same]; rfl, good'⟩
      · obtain rfl := Option.some.inj same
        exact .inl ⟨member, by rw [none]; rfl, good⟩
    · rw [if_neg here] at h
      rw [List.filter_cons_of_neg (by simpa using here)]
      exact ih h

theorem finish_eq_ok {rest : List Json} {a b : α} (h : finish rest a = .ok b) : a = b := by
  rw [finish] at h
  split at h
  · exact Except.ok.inj h
  · cases h

/-- What was read is what stands in the part of the name or, in an array, in the first one. -/
theorem readOnly_eq_ok {value : Json} {a : α} (h : readOnly name read value = .ok a) :
    ∃ part, value.part? name 0 = some part ∧ read part = .ok a := by
  cases value with
  | obj members =>
    rcases readMember_eq_ok h with ⟨member, last, good⟩ | ⟨-, none⟩
    · exact ⟨member.2, by rw [Json.part?, last]; rfl, good⟩
    · cases none
  | arr items =>
    cases items with
    | nil => cases h
    | cons item rest =>
      obtain ⟨b, good, h⟩ := Outcome.bind_eq_ok_iff.1 h
      obtain rfl := finish_eq_ok h
      exact ⟨item, rfl, good⟩
  | _ => cases h

/-- The total and the list of hits are read each for itself. -/
theorem readMember_of_readParts {total : Option Nat} {events : Option (List Event)}
    {results : SearchResults} (h : readParts total events members = .ok results) :
    readMember "total" (readOnly "value" readCount) total members = .ok results.total ∧
      readMember "hits" readHitList (some (events.getD [])) members = .ok results.events := by
  induction members generalizing total events with
  | nil =>
    cases total with
    | none => cases h
    | some n =>
      obtain rfl := Except.ok.inj h
      exact ⟨rfl, rfl⟩
  | cons member rest ih =>
    obtain ⟨key, value⟩ := member
    rw [readParts] at h
    rw [readMember, readMember]
    by_cases isTotal : key = "total"
    · have notHits : ¬key = "hits" := by rw [isTotal]; decide
      rw [if_pos isTotal] at h ⊢
      rw [if_neg notHits]
      obtain ⟨n, good, h⟩ := Outcome.bind_eq_ok_iff.1 h
      rw [good]
      exact ih h
    · rw [if_neg isTotal] at h ⊢
      by_cases isHits : key = "hits"
      · rw [if_pos isHits] at h ⊢
        obtain ⟨listed, good, h⟩ := Outcome.bind_eq_ok_iff.1 h
        rw [good]
        exact ih h
      · rw [if_neg isHits] at h ⊢
        exact ih h

end Members

theorem readCount_eq_ok {value : Json} {n : Nat} (h : readCount value = .ok n) :
    value = .int n := by
  cases value with
  | int m =>
    rw [readCount] at h
    split at h
    · rename_i within
      obtain rfl := Except.ok.inj h
      exact congrArg Json.int (Int.toNat_of_nonneg within.1).symm
    · cases h
  | _ => cases h

/-- The hits that an answer lists; one that lists none has none. -/
def hitsOf (answer : Json) : List Json :=
  match answer.part? "hits" 1 with
  | some (.arr hits) => hits
  | _ => []

/-- Whether a hit has the document of an event in it. -/
def HitOf (hit : Json) (event : Event) : Prop :=
  ∃ source, hit.part? "_source" 0 = some source ∧ Event.ofDocument source = .ok event

/-- Whether an answer counts some matches and has a hit for each of some events, in order. -/
structure Lists (answer : Json) (results : SearchResults) : Prop where
  counted : ∃ count, answer.part? "total" 0 = some count ∧
    count.part? "value" 0 = some (.int results.total)
  listed : List.Forall₂ HitOf (hitsOf answer) results.events

/-- Each hit is read as one event, in order. -/
theorem readHits_eq_ok {hits : List Json} {events : List Event} (h : readHits hits = .ok events) :
    List.Forall₂ HitOf hits events := by
  induction hits generalizing events with
  | nil =>
    obtain rfl := Except.ok.inj h
    exact .nil
  | cons hit rest ih =>
    obtain ⟨event, first, h⟩ := Outcome.bind_eq_ok_iff.1 h
    obtain ⟨more, further, same⟩ := Outcome.bind_eq_ok_iff.1 h
    obtain rfl := Except.ok.inj same
    exact .cons (readOnly_eq_ok first) (ih further)

/-- The list of hits has a hit for each event. -/
theorem forall₂_of_readHitList {answer listed : Json} {events : List Event}
    (part : answer.part? "hits" 1 = some listed) (h : readHitList listed = .ok events) :
    List.Forall₂ HitOf (hitsOf answer) events := by
  rw [hitsOf, part]
  cases listed with
  | arr hits => exact readHits_eq_ok h
  | _ => cases h

/-- The events are those of the hits, and none where no hits are listed. -/
theorem forall₂_of_readMember {members : List (String × Json)} {events : List Event}
    (h : readMember "hits" readHitList (some []) members = .ok events) :
    List.Forall₂ HitOf (hitsOf (.obj members)) events := by
  rcases readMember_eq_ok h with ⟨member, last, read⟩ | ⟨absent, same⟩
  · exact forall₂_of_readHitList (by rw [Json.part?, last]; rfl) read
  · rw [hitsOf, Json.part?, absent, ← Option.some.inj same]
    exact .nil

/-- The number of matches is the value of the count. -/
theorem value_of_readCount {count : Json} {n : Nat}
    (h : readOnly "value" readCount count = .ok n) : count.part? "value" 0 = some (.int n) := by
  obtain ⟨value, counted, read⟩ := readOnly_eq_ok h
  rw [counted, readCount_eq_ok read]

/-- A page that was read counts the matches and lists the events. -/
theorem readPage_eq_ok {answer : Json} {results : SearchResults}
    (h : readPage answer = .ok results) : Lists answer results := by
  cases answer with
  | obj members =>
    obtain ⟨total, hits⟩ := readMember_of_readParts h
    refine ⟨?_, forall₂_of_readMember hits⟩
    rcases readMember_eq_ok total with ⟨member, last, read⟩ | ⟨-, none⟩
    · exact ⟨member.2, by rw [Json.part?, last]; rfl, value_of_readCount read⟩
    · cases none
  | arr items =>
    match items, h with
    | [total], h =>
      obtain ⟨n, read, same⟩ := Outcome.bind_eq_ok_iff.1 h
      obtain rfl := Except.ok.inj same
      exact ⟨⟨total, rfl, value_of_readCount read⟩, .nil⟩
    | total :: hits :: rest, h =>
      obtain ⟨n, read, h⟩ := Outcome.bind_eq_ok_iff.1 h
      obtain ⟨events, listed, h⟩ := Outcome.bind_eq_ok_iff.1 h
      obtain rfl := finish_eq_ok h
      exact ⟨⟨total, rfl, value_of_readCount read⟩, forall₂_of_readHitList rfl listed⟩
  | _ => cases h

/-- **What a response that was read says**: it counts the matches and lists the events. -/
theorem ofResponse_eq_ok {response : Json} {results : SearchResults}
    (h : ofResponse response = .ok results) :
    ∃ answer, response.part? "hits" 0 = some answer ∧ Lists answer results := by
  obtain ⟨answer, found, h⟩ := readOnly_eq_ok h
  exact ⟨answer, found, readPage_eq_ok h⟩

end SearchResults

end EventCatalog
