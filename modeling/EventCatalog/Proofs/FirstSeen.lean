/-
# EventCatalog.Proofs.FirstSeen — entries in the order of their first appearance

Parameters are grouped by name and messages are counted, both in a list of entries that keeps
the order in which the keys were first seen.  Either way one thing after the other is recorded
under its key: what the entry holds grows, or a new entry is put behind the others (`record`).

Whatever the entries hold, the list has an entry for each key, in the order of first
appearance, and it holds what the things with that key come to by themselves, whatever stands
between them: `foldl_record_eq_map`.
-/
import Mathlib.Data.List.Induction
import Mathlib.Data.List.Nodup

set_option autoImplicit false

namespace EventCatalog.FirstSeen

/-! ## Keys -/

/-- A further key is new or has been seen. -/
theorem eraseDups_concat (keys : List String) (key : String) :
    (keys ++ [key]).eraseDups =
      if key ∈ keys then keys.eraseDups else keys.eraseDups ++ [key] := by
  rw [List.eraseDups_append]
  by_cases seen : key ∈ keys
  · have nothing : [key].removeAll keys = [] := by simp [List.removeAll, seen]
    rw [nothing, if_pos seen, List.eraseDups_nil, List.append_nil]
  · have whole : [key].removeAll keys = [key] := by simp [List.removeAll, seen]
    rw [whole, if_neg seen]
    rfl

theorem nodup_eraseDups (keys : List String) : keys.eraseDups.Nodup := by
  induction keys using List.reverseRecOn with
  | nil => exact List.nodup_nil
  | append_singleton keys key ih =>
    rw [eraseDups_concat]
    by_cases seen : key ∈ keys
    · rwa [if_pos seen]
    · rw [if_neg seen]
      have apart : List.Disjoint keys.eraseDups [key] := by
        rw [List.disjoint_singleton]
        exact fun member => seen (List.mem_eraseDups.1 member)
      exact ih.append (List.nodup_singleton key) apart

/-- Some of the keys first appear in the order in which all do. -/
theorem eraseDups_filter (p : String → Bool) (keys : List String) :
    (keys.filter p).eraseDups = keys.eraseDups.filter p := by
  induction keys using List.reverseRecOn with
  | nil => rfl
  | append_singleton keys key ih =>
    rw [List.filter_append, eraseDups_concat]
    by_cases kept : p key = true
    · have seen : key ∈ keys.filter p ↔ key ∈ keys := by simp [kept]
      rw [List.filter_cons_of_pos kept, List.filter_nil, eraseDups_concat, ih]
      by_cases member : key ∈ keys
      · rw [if_pos (seen.2 member), if_pos member]
      · rw [if_neg (fun inside => member (seen.1 inside)), if_neg member, List.filter_append,
          List.filter_cons_of_pos kept, List.filter_nil]
    · rw [List.filter_cons_of_neg kept, List.filter_nil, List.append_nil, ih]
      by_cases member : key ∈ keys
      · rw [if_pos member]
      · rw [if_neg member, List.filter_append, List.filter_cons_of_neg kept, List.filter_nil,
          List.append_nil]

/-! ## Entries -/

variable {α β : Type}

/-- Lets the entry of a key grow, or puts one behind the others. -/
def record (grow : Option β → β) : List (String × β) → String → List (String × β)
  | [], key => [(key, grow none)]
  | (k, held) :: rest, key =>
    if k = key then (k, grow (some held)) :: rest else (k, held) :: record grow rest key

theorem record_of_new (grow : Option β → β) {entries : List (String × β)} {key : String}
    (new : key ∉ entries.map Prod.fst) :
    record grow entries key = entries ++ [(key, grow none)] := by
  induction entries with
  | nil => rfl
  | cons entry rest ih =>
    rw [List.map_cons, List.mem_cons, not_or] at new
    rw [record, if_neg (fun same => new.1 same.symm), ih new.2]
    rfl

/-- Only the entry of the key changes. -/
theorem record_map_of_mem (grow : Option β → β) (held : String → β) {keys : List String}
    {key : String} (distinct : keys.Nodup) (seen : key ∈ keys) :
    record grow (keys.map fun k => (k, held k)) key =
      keys.map fun k => (k, if k = key then grow (some (held k)) else held k) := by
  induction keys with
  | nil => exact absurd seen List.not_mem_nil
  | cons k rest ih =>
    obtain ⟨apart, others⟩ := List.nodup_cons.1 distinct
    rw [List.map_cons, List.map_cons, record]
    by_cases same : k = key
    · subst same
      rw [if_pos rfl, if_pos rfl]
      congr 1
      refine List.map_congr_left fun other member => ?_
      have differs : other ≠ k := by
        rintro rfl
        exact apart member
      rw [if_neg differs]
    · rw [if_neg same, if_neg same, ih others ((List.mem_cons.1 seen).resolve_left (Ne.symm same))]

/-- **Each key has one entry, in the order of first appearance, with what the things of that
key come to.**  What things come to grows with the last of them. -/
theorem foldl_record_eq_map {key : α → String} {grow : α → Option β → β} {sum : List α → β}
    (grows : ∀ xs x, sum (xs ++ [x]) = grow x (if xs = [] then none else some (sum xs)))
    (xs : List α) :
    xs.foldl (fun entries x => record (grow x) entries (key x)) [] =
      (xs.map key).eraseDups.map fun k => (k, sum (xs.filter fun x => key x = k)) := by
  induction xs using List.reverseRecOn with
  | nil => rfl
  | append_singleton xs x ih =>
    rw [List.foldl_append, List.foldl_cons, List.foldl_nil, ih, List.map_append,
      List.map_singleton, eraseDups_concat]
    have other {k : String} (differs : key x ≠ k) :
        (xs ++ [x]).filter (fun x => key x = k) = xs.filter fun x => key x = k := by
      simp [List.filter_append, differs]
    have own : (xs ++ [x]).filter (fun y => key y = key x) =
        xs.filter (fun y => key y = key x) ++ [x] := by
      simp [List.filter_append]
    by_cases seen : key x ∈ xs.map key
    · obtain ⟨y, member, same⟩ := List.mem_map.1 seen
      have some : xs.filter (fun y => key y = key x) ≠ [] :=
        List.ne_nil_of_mem (List.mem_filter.2 ⟨member, decide_eq_true same⟩)
      rw [if_pos seen, record_map_of_mem _ _ (nodup_eraseDups _) (List.mem_eraseDups.2 seen)]
      refine List.map_congr_left fun k _ => ?_
      by_cases here : k = key x
      · subst here
        rw [if_pos rfl, own, grows, if_neg some]
      · rw [if_neg here, other (Ne.symm here)]
    · have none : xs.filter (fun y => key y = key x) = [] := by
        refine List.filter_eq_nil_iff.2 fun y member => ?_
        rw [decide_eq_true_eq]
        exact fun same => seen (List.mem_map.2 ⟨y, member, same⟩)
      have new : key x ∉ ((xs.map key).eraseDups.map fun k =>
          (k, sum (xs.filter fun x => key x = k))).map Prod.fst := by
        rw [List.map_map]
        exact fun member => seen (List.mem_eraseDups.1 (by simpa using member))
      rw [if_neg seen, record_of_new _ new, List.map_append, List.map_singleton, own, grows,
        if_pos none]
      congr 1
      refine List.map_congr_left fun k member => ?_
      rw [other]
      rintro rfl
      exact seen (List.mem_eraseDups.1 member)

end EventCatalog.FirstSeen
