/-
# EventCatalog.Proofs.Store.Writing — each event is written once

Events with a game id are cut into batches, and each batch is one request.  The client goes
from batch to batch as long as the store answers: batch `k` is request `k`, and its failures
are those of answer `k`.  One batch is a step (`writeBatches_step`); a run over batches that are
all answered sends all of them (`writeBatches_answered`), and a run with a response that is no
answer ends there (`writeBatches_failed`).

The batches are consecutive pieces of the events, so no event is lost, repeated or moved
(`chunks_eq_map_batch`).  As long as no answer tells more failures than its batch has events, the
count of written events never falls below zero, and what is written and what is refused add up
(`countAfter_add`).
-/
import Mathlib.Data.List.Permutation
import EventCatalog.Proofs.Store.Answer
import EventCatalog.Store.Script

set_option autoImplicit false

namespace EventCatalog.Store

/-! ## Batches -/

section Batches

variable {α : Type}

/-- Batch `k`, counted from zero, of a list that is cut into batches of a size. -/
def batch (size : Nat) (xs : List α) (k : Nat) : List α := (xs.drop (k * size)).take size

/-- How many batches a list of a length makes, of which the last may be shorter. -/
def batchCount (size length : Nat) : Nat := (length + size - 1) / size

theorem batchCount_zero {size : Nat} (positive : 1 ≤ size) : batchCount size 0 = 0 := by
  rw [batchCount, Nat.zero_add]
  exact Nat.div_eq_of_lt (by omega)

/-- A first batch leaves one batch less. -/
theorem batchCount_of_pos {size length : Nat} (positive : 1 ≤ size) (some : 0 < length) :
    batchCount size length = batchCount size (length - size) + 1 := by
  rw [batchCount, batchCount]
  by_cases small : length ≤ size
  · have rest : length - size + size - 1 = size - 1 := by omega
    have whole : length + size - 1 = length - 1 + size := by omega
    rw [rest, whole, Nat.add_div_right _ positive, Nat.div_eq_of_lt (by omega),
      Nat.div_eq_of_lt (by omega)]
  · have rest : length + size - 1 = length - size + size - 1 + size := by omega
    rw [rest, Nat.add_div_right _ positive]

theorem batch_succ (size : Nat) (xs : List α) (k : Nat) :
    batch size xs (k + 1) = batch size (xs.drop size) k := by
  rw [batch, batch, List.drop_drop, Nat.succ_mul, Nat.add_comm]

/-- **The chunks of a list are its batches**, one after the other. -/
theorem chunks_eq_map_batch {size : Nat} (positive : 1 ≤ size) (xs : List α) :
    chunks size xs = (List.range (batchCount size xs.length)).map (batch size xs) := by
  fun_induction chunks size xs with
  | case1 => rw [List.length_nil, batchCount_zero positive]; rfl
  | case2 x rest ih =>
    have first : x :: rest.take (size - 1) = batch size (x :: rest) 0 := by
      obtain ⟨n, rfl⟩ := Nat.exists_eq_add_of_le' positive
      simp [batch]
    have later : rest.drop (size - 1) = (x :: rest).drop size := by
      obtain ⟨n, rfl⟩ := Nat.exists_eq_add_of_le' positive
      simp
    have further : batchCount size (x :: rest).length =
        batchCount size ((x :: rest).drop size).length + 1 := by
      rw [List.length_drop]
      exact batchCount_of_pos positive (by simp)
    rw [ih, first, later, further, List.range_succ_eq_map, List.map_cons, List.map_map]
    congr 1
    exact List.map_congr_left fun k _ => (batch_succ size (x :: rest) k).symm

theorem flatMap_batch {size : Nat} (positive : 1 ≤ size) (xs : List α) :
    (List.range (batchCount size xs.length)).flatMap (batch size xs) = xs := by
  rw [List.flatMap_def, ← chunks_eq_map_batch positive, flatten_chunks]

end Batches

/-! ## Answers -/

/-- Whether a response is a success with an answer: it came, and what it says can be read. -/
def Answers (response : Option StoreResponse) (answer : Bulk.Answer) : Prop :=
  ∃ received, response = some received ∧ 200 ≤ received.status ∧ received.status < 300 ∧
    Bulk.Says received.body answer

theorem readWrite_eq_ok_iff {response : Option StoreResponse} {failures : List DocumentFailure} :
    readWrite response = .ok failures ↔
      ∃ answer, Answers response answer ∧ failures = answer.failures := by
  rw [readWrite, Outcome.bind_eq_ok_iff]
  constructor
  · rintro ⟨body, succeeded, read⟩
    cases response with
    | none => cases succeeded
    | some received =>
      rw [successBody] at succeeded
      split at succeeded
      · next success =>
        cases succeeded
        rw [StoreResponse.isSuccess, Bool.and_eq_true, decide_eq_true_eq,
          decide_eq_true_eq] at success
        split at read
        · next answer readable =>
          cases read
          have stated := Bulk.readAnswer_eq_some_iff.1 readable
          exact ⟨answer, ⟨received, rfl, success.1, success.2, stated⟩, rfl⟩
        · cases read
      · cases succeeded
  · rintro ⟨answer, ⟨received, rfl, low, high, stated⟩, rfl⟩
    have success : received.isSuccess = true := by
      rw [StoreResponse.isSuccess, Bool.and_eq_true, decide_eq_true_eq, decide_eq_true_eq]
      exact ⟨low, high⟩
    refine ⟨received.body, by rw [successBody, if_pos success], ?_⟩
    rw [Bulk.readAnswer_eq_some_iff.2 stated]
    rfl

theorem exists_cause_of_not_answers {response : Option StoreResponse}
    (silent : ¬∃ answer, Answers response answer) : ∃ cause, readWrite response = .error cause := by
  cases read : readWrite response with
  | error cause => exact ⟨cause, rfl⟩
  | ok failures =>
    obtain ⟨answer, answered, -⟩ := readWrite_eq_ok_iff.1 read
    exact absurd ⟨answer, answered⟩ silent

/-! ## Counts -/

/-- Written and refused events add up where no more are refused than were listed. -/
theorem countAfter_add {listed refused : Nat} (bounded : refused ≤ listed) (written : Nat) :
    countAfter written listed refused + refused = written + listed := by
  rw [countAfter, if_pos (by omega)]
  omega

/-! ## A run over batches -/

section Run

variable (responses : Nat → Option StoreResponse) (settings : Settings)

/-- The summary after one more batch. -/
def summaryAfter (summary : WriteSummary) (batch : List Event)
    (failures : List DocumentFailure) : WriteSummary where
  written := countAfter summary.written batch.length failures.length
  failures := summary.failures ++ failures

/-- **One batch is one request**, and its response decides what follows. -/
theorem writeBatches_step (summary : WriteSummary) (batch : List Event) (rest : List (List Event))
    (sent : List StoreRequest) :
    (writeBatches (Script.link responses) settings summary (batch :: rest)).run sent =
      match readWrite (responses sent.length) with
      | .error cause => (.error cause, sent ++ [writeRequest settings batch])
      | .ok failures =>
        (writeBatches (Script.link responses) settings (summaryAfter summary batch failures)
          rest).run (sent ++ [writeRequest settings batch]) := by
  rw [writeBatches, StateT.run_bind, Script.run_link]
  simp only [bind]
  cases readWrite (responses sent.length) <;> rfl

/-- **Batches that are all answered are all sent**, in order, and their failures are those of
the answers. -/
theorem writeBatches_answered {batches : List (List Event)} {answers : Nat → Bulk.Answer}
    (sent : List StoreRequest) (summary : WriteSummary)
    (answered : ∀ k < batches.length, Answers (responses (sent.length + k)) (answers k)) :
    ∃ total, (writeBatches (Script.link responses) settings summary batches).run sent =
        (.ok total, sent ++ batches.map (writeRequest settings)) ∧
      total.failures = summary.failures ++
        (List.range batches.length).flatMap (fun k => (answers k).failures) ∧
      ((∀ k batch, batches[k]? = some batch → (answers k).failures.length ≤ batch.length) →
        total.written + total.failures.length =
          summary.written + summary.failures.length + batches.flatten.length) := by
  induction batches generalizing summary sent answers with
  | nil =>
    refine ⟨summary, ?_, by simp, by simp⟩
    rw [List.map_nil, List.append_nil]
    rfl
  | cons batch rest ih =>
    have first := readWrite_eq_ok_iff.2 ⟨answers 0, answered 0 (Nat.succ_pos _), rfl⟩
    have later : ∀ k < rest.length,
        Answers (responses ((sent ++ [writeRequest settings batch]).length + k))
          (answers (k + 1)) := by
      intro k within
      have next := answered (k + 1) (Nat.succ_lt_succ within)
      rwa [List.length_append, List.length_singleton, Nat.add_assoc, Nat.add_comm 1 k]
    obtain ⟨total, run, failures, counted⟩ := ih (sent ++ [writeRequest settings batch])
      (summaryAfter summary batch (answers 0).failures) later
    refine ⟨total, ?_, ?_, fun bounded => ?_⟩
    · rw [Nat.add_zero] at first
      rw [writeBatches_step, first]
      simp only [run, List.map_cons, List.append_assoc, List.singleton_append]
    · rw [failures, summaryAfter, List.append_assoc, List.length_cons,
        List.range_succ_eq_map, List.flatMap_cons, List.flatMap_map]
    · have here := bounded 0 batch rfl
      have later := counted fun k other found => bounded (k + 1) other found
      have added := countAfter_add here summary.written
      rw [later, List.flatten_cons, List.length_append]
      simp only [summaryAfter, List.length_append]
      omega

/-- **A run ends with the first response that is no answer.** -/
theorem writeBatches_failed {batches : List (List Event)} {k : Nat} (sent : List StoreRequest)
    (summary : WriteSummary) (within : k < batches.length)
    (earlier : ∀ j < k, ∃ answer, Answers (responses (sent.length + j)) answer)
    (silent : ¬∃ answer, Answers (responses (sent.length + k)) answer) :
    ∃ cause, (writeBatches (Script.link responses) settings summary batches).run sent =
      (.error cause, sent ++ (batches.take (k + 1)).map (writeRequest settings)) := by
  induction batches generalizing summary sent k with
  | nil => exact absurd within (Nat.not_lt_zero k)
  | cons batch rest ih =>
    rw [writeBatches_step]
    cases k with
    | zero =>
      obtain ⟨cause, refused⟩ := exists_cause_of_not_answers silent
      rw [Nat.add_zero] at refused
      exact ⟨cause, by rw [refused]; rfl⟩
    | succ k =>
      obtain ⟨answer, answered⟩ := earlier 0 (Nat.succ_pos k)
      have first := readWrite_eq_ok_iff.2 ⟨answer, answered, rfl⟩
      have index (j : Nat) : (sent ++ [writeRequest settings batch]).length + j =
          sent.length + (j + 1) := by
        rw [List.length_append, List.length_singleton]
        omega
      obtain ⟨cause, run⟩ := ih (sent ++ [writeRequest settings batch])
        (summaryAfter summary batch answer.failures) (Nat.lt_of_succ_lt_succ within)
        (fun j before => by rw [index]; exact earlier (j + 1) (Nat.succ_lt_succ before))
        (by rwa [index])
      refine ⟨cause, ?_⟩
      rw [Nat.add_zero] at first
      simp only [first, run, List.take_succ_cons, List.map_cons, List.append_assoc,
        List.singleton_append]

end Run

/-! ## Writing events -/

/-- The first requests of writing events, one for each of the first batches. -/
def requests (settings : Settings) (stored : List Event) (count : Nat) : List StoreRequest :=
  (List.range count).map fun k => writeRequest settings (batch settings.batchSize stored k)

theorem writeEvents_eq (settings : Settings) (positive : 1 ≤ settings.batchSize)
    (responses : Nat → Option StoreResponse) (events : List Event) :
    Script.record (writeEvents (Script.link responses) settings events) =
      (writeBatches (Script.link responses) settings {}
        ((List.range (batchCount settings.batchSize (events.filter Event.storable).length)).map
          (batch settings.batchSize (events.filter Event.storable)))).run [] := by
  rw [writeEvents, chunks_eq_map_batch positive]
  rfl

/-- Items of one entry for at most each event tell no more failures than there are events. -/
theorem length_failures_le_batch {answer : Bulk.Answer} {batch : List Event}
    (single : ∀ item ∈ answer.items, item.length = 1)
    (fits : answer.items.length ≤ batch.length) : answer.failures.length ≤ batch.length :=
  Nat.le_trans (Bulk.length_failures_le single) fits

/-- **Writing sends every event with a game id once, in order, and stops at the first batch
that fails.**  Environments give batches of at least one event.  A batch is one request, and
together the batches are the events with a game id.  With a response that is no answer the
writing ends there with an error.  If all responses are answers, all batches are sent; and if
each lists an item for at most each event of its batch, with one action, the count never falls
below zero, the events that were written and those that were refused are all of them, and the
refused ones are those of the answers, in order. -/
theorem writeEvents_each_once :
    (∀ env settings, Settings.ofEnvironment env = .ok settings → 1 ≤ settings.batchSize) ∧
    ∀ (settings : Settings), 1 ≤ settings.batchSize →
      ∀ (events : List Event) (responses : Nat → Option StoreResponse),
        let stored := events.filter Event.storable
        let count := batchCount settings.batchSize stored.length
        (∀ k, (writeRequest settings (batch settings.batchSize stored k)).method = "POST" ∧
          (writeRequest settings (batch settings.batchSize stored k)).path = "/_bulk" ∧
          (writeRequest settings (batch settings.batchSize stored k)).body =
            Bulk.body settings.index (batch settings.batchSize stored k)) ∧
        (List.range count).flatMap (batch settings.batchSize stored) = stored ∧
        (∀ k < count, (∀ j < k, ∃ answer, Answers (responses j) answer) →
          (¬∃ answer, Answers (responses k) answer) →
          ∃ cause, Script.record (writeEvents (Script.link responses) settings events) =
            (.error cause, requests settings stored (k + 1))) ∧
        ∀ answers : Nat → Bulk.Answer, (∀ k < count, Answers (responses k) (answers k)) →
          ∃ summary, Script.record (writeEvents (Script.link responses) settings events) =
              (.ok summary, requests settings stored count) ∧
            ((∀ k < count,
                (answers k).items.length ≤ (batch settings.batchSize stored k).length ∧
                ∀ item ∈ (answers k).items, item.length = 1) →
              (∀ k < count,
                (answers k).failures.length ≤ (batch settings.batchSize stored k).length) ∧
              summary.written + summary.failures.length = stored.length ∧
              summary.failures = (List.range count).flatMap fun k => (answers k).failures) := by
  refine ⟨fun _ _ => Settings.batchSize_pos, ?_⟩
  intro settings positive events responses stored count
  have batches : ((List.range count).map (batch settings.batchSize stored)).length = count := by
    rw [List.length_map, List.length_range]
  refine ⟨fun k => ⟨rfl, rfl, rfl⟩, flatMap_batch positive stored, ?_, ?_⟩
  · intro k within earlier silent
    have here (j : Nat) : responses (([] : List StoreRequest).length + j) = responses j := by
      rw [List.length_nil, Nat.zero_add]
    obtain ⟨cause, run⟩ := writeBatches_failed responses settings [] {} (by rwa [batches])
      (by simpa only [here] using earlier) (by rwa [here])
    refine ⟨cause, ?_⟩
    rw [writeEvents_eq settings positive, run, List.nil_append, ← List.map_take, List.take_range,
      Nat.min_eq_left within, List.map_map]
    rfl
  · intro answers answered
    have all : ∀ k < ((List.range count).map (batch settings.batchSize stored)).length,
        Answers (responses (([] : List StoreRequest).length + k)) (answers k) := by
      rw [batches]
      simpa using answered
    obtain ⟨total, run, failures, counted⟩ := writeBatches_answered responses settings [] {} all
    refine ⟨total, ?_, fun modest => ?_⟩
    · rw [writeEvents_eq settings positive, run, List.nil_append, List.map_map]
      rfl
    · have bounded (k : Nat) (within : k < count) :
          (answers k).failures.length ≤ (batch settings.batchSize stored k).length :=
        length_failures_le_batch (modest k within).2 (modest k within).1
      refine ⟨bounded, ?_, ?_⟩
      · rw [counted, ← List.flatMap_def, flatMap_batch positive]
        · simp
        · intro k found same
          obtain ⟨within, rfl⟩ := List.getElem?_eq_some_iff.1 same
          rw [batches] at within
          rw [List.getElem_map, List.getElem_range]
          exact bounded k within
      · rw [failures, batches, List.nil_append]

/-- Three events with a game id and one without, in batches of two: one event is refused and the
others are written, unless the second response is lost.  The second response has a number that
is too large for any value, which is skipped. -/
theorem writeEvents_each_once_two_batches :
    let settings : Settings := ⟨Settings.defaultAddress, none, none, Settings.defaultIndex, 2,
      Settings.defaultPort⟩
    let named (id : String) : Event := Event.empty.set .gameId (some id)
    let events := [named "A1", named " ", named "A2", named "A3"]
    let first := "\x7B\"errors\":true,\"items\":[\x7B\"index\":\x7B\"_id\":\"A1\"\x7D\x7D," ++
      "\x7B\"index\":\x7B\"_id\":\"A2\",\"error\":\x7B\"type\":\"t\",\"reason\":\"r\"\x7D\x7D\x7D]\x7D"
    let second := "\x7B\"took\":1e999,\"errors\":false\x7D"
    let store (k : Nat) : Option StoreResponse := some ⟨200, if k = 0 then first else second⟩
    let broken (k : Nat) : Option StoreResponse := if k = 0 then some ⟨200, first⟩ else none
    (∃ summary, Script.record (writeEvents (Script.link store) settings events) =
        (.ok summary, requests settings (events.filter Event.storable) 2) ∧
      summary.written = 2 ∧ summary.failures = [⟨"A2", "t: r"⟩]) ∧
    ∃ cause, Script.record (writeEvents (Script.link broken) settings events) =
      (.error cause, requests settings (events.filter Event.storable) 2) := by
  intro settings named events first second store broken
  obtain ⟨-, -, failed, -⟩ := writeEvents_each_once.2 settings (by decide) events broken
  obtain ⟨-, -, -, done⟩ := writeEvents_each_once.2 settings (by decide) events store
  have refused : Bulk.Says first ⟨true, [[("index", none)], [("index", some ⟨"A2", "t: r"⟩)]]⟩ :=
    Bulk.readAnswer_eq_some_iff.1 (by decide +kernel)
  have quiet : Bulk.Says second ⟨false, []⟩ :=
    Bulk.readAnswer_eq_some_iff.1 (by decide +kernel)
  have stored : (events.filter Event.storable).length = 3 := by decide
  have count : batchCount settings.batchSize (events.filter Event.storable).length = 2 := by
    rw [stored]
    decide
  rw [count] at failed done
  constructor
  · obtain ⟨summary, run, counted⟩ := done
      (fun k => if k = 0 then ⟨true, [[("index", none)], [("index", some ⟨"A2", "t: r"⟩)]]⟩
        else ⟨false, []⟩) (by
        intro k within
        obtain rfl | rfl : k = 0 ∨ k = 1 := by omega
        · exact ⟨_, rfl, by decide, by decide, refused⟩
        · exact ⟨_, rfl, by decide, by decide, quiet⟩)
    obtain ⟨-, all, told⟩ := counted (by
      intro k within
      obtain rfl | rfl : k = 0 ∨ k = 1 := by omega
      · exact ⟨by decide, by decide⟩
      · exact ⟨by decide, by decide⟩)
    have one : summary.failures = [⟨"A2", "t: r"⟩] := told
    rw [one, stored] at all
    exact ⟨summary, run, by simpa using all, one⟩
  · refine failed 1 (by decide) (fun j before => ?_) ?_
    · obtain rfl : j = 0 := by omega
      exact ⟨_, _, rfl, by decide, by decide, refused⟩
    · rintro ⟨answer, received, lost, -⟩
      cases lost

end EventCatalog.Store
