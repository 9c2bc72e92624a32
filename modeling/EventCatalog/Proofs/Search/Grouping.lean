/-
# EventCatalog.Proofs.Search.Grouping — parameters by name

Parameters are grouped by name in the order in which the names first appear.  The groups of
pairs are known in full: one for each name, in the order of first appearance, with the values
that were paired with it (`ofPairs_eq_map`).  So a name is looked up with all its values
(`lookup_ofPairs`), and a pair with a new name is a group of its own behind the others
(`ofPairs_concat`).
-/
import EventCatalog.Proofs.FirstSeen
import EventCatalog.Search.Request
import Mathlib.Data.List.Induction

set_option autoImplicit false

namespace EventCatalog.Parameters

/-- The values that are paired with a name, in order. -/
def valuesOf (name : String) (pairs : List (String × String)) : List String :=
  (pairs.filter fun pair => pair.1 = name).map Prod.snd

theorem append_eq_record (params : Parameters) (name : String) (values : List String) :
    params.append name values =
      FirstSeen.record (fun listed => listed.getD [] ++ values) params name := by
  induction params with
  | nil => rfl
  | cons param rest ih =>
    obtain ⟨other, listed⟩ := param
    rw [append, FirstSeen.record, ih]
    rfl

/-- **Each name holds exactly the values paired with it**, and the names stand in the order in
which they were first seen. -/
theorem ofPairs_eq_map (pairs : List (String × String)) :
    ofPairs pairs =
      (pairs.map Prod.fst).eraseDups.map fun name => (name, valuesOf name pairs) := by
  have grows (before : List (String × String)) (pair : String × String) :
      (before ++ [pair]).map Prod.snd =
        (if before = [] then none else some (before.map Prod.snd)).getD [] ++ [pair.2] := by
    by_cases first : before = []
    · simp [first]
    · simp [first]
  rw [ofPairs, group, List.foldl_map]
  simp only [append_eq_record]
  exact FirstSeen.foldl_record_eq_map grows pairs

theorem nodup_names_ofPairs (pairs : List (String × String)) :
    ((ofPairs pairs).map Prod.fst).Nodup := by
  rw [ofPairs_eq_map, List.map_map]
  simpa [Function.comp_def] using FirstSeen.nodup_eraseDups (pairs.map Prod.fst)

/-- A name has values exactly if it is paired. -/
theorem valuesOf_eq_nil_iff {name : String} {pairs : List (String × String)} :
    valuesOf name pairs = [] ↔ name ∉ pairs.map Prod.fst := by
  rw [valuesOf, List.map_eq_nil_iff, List.filter_eq_nil_iff, List.mem_map]
  constructor
  · rintro none ⟨pair, member, same⟩
    exact none pair member (decide_eq_true same)
  · intro none pair member same
    exact none ⟨pair, member, of_decide_eq_true same⟩

theorem valuesOf_concat (other name value : String) (pairs : List (String × String)) :
    valuesOf other (pairs ++ [(name, value)]) =
      valuesOf other pairs ++ if name = other then [value] else [] := by
  rw [valuesOf, valuesOf, List.filter_append, List.map_append]
  by_cases same : name = other
  · simp [same]
  · simp [same]

/-- A pair with a new name is a group of its own, behind the others. -/
theorem ofPairs_concat {pairs : List (String × String)} {name : String}
    (new : ∀ pair ∈ pairs, pair.1 ≠ name) (value : String) :
    ofPairs (pairs ++ [(name, value)]) = ofPairs pairs ++ [(name, [value])] := by
  have unseen : name ∉ pairs.map Prod.fst := by
    intro member
    obtain ⟨pair, listed, same⟩ := List.mem_map.1 member
    exact new pair listed same
  rw [ofPairs_eq_map, ofPairs_eq_map, List.map_append, List.map_singleton,
    FirstSeen.eraseDups_concat, if_neg unseen, List.map_append, List.map_singleton,
    valuesOf_concat, if_pos rfl, valuesOf_eq_nil_iff.2 unseen, List.nil_append]
  congr 1
  refine List.map_congr_left fun other member => ?_
  have differs : name ≠ other := by
    rintro rfl
    exact unseen (List.mem_eraseDups.1 member)
  rw [valuesOf_concat, if_neg differs, List.append_nil]

/-- Without the pairs of some names, the groups of these names are missing. -/
theorem ofPairs_filter (p : String → Bool) (pairs : List (String × String)) :
    ofPairs (pairs.filter fun pair => p pair.1) = (ofPairs pairs).filter fun param => p param.1 := by
  have names : (pairs.filter fun pair => p pair.1).map Prod.fst = (pairs.map Prod.fst).filter p := by
    rw [List.filter_map]
    rfl
  rw [ofPairs_eq_map, ofPairs_eq_map, names, FirstSeen.eraseDups_filter, List.filter_map]
  refine List.map_congr_left fun name member => ?_
  have kept : p name = true := (List.mem_filter.1 member).2
  have all : (pairs.filter fun pair => p pair.1).filter (fun pair => pair.1 = name) =
      pairs.filter fun pair => pair.1 = name := by
    rw [List.filter_filter]
    refine List.filter_congr fun pair _ => ?_
    by_cases same : pair.1 = name
    · simp [same, kept]
    · simp [same]
  rw [valuesOf, all, valuesOf]

theorem lookup_map_names (names : List String) (values : String → List String) (name : String) :
    (names.map fun n => (n, values n)).lookup name =
      if name ∈ names then some (values name) else none := by
  induction names with
  | nil => rfl
  | cons n rest ih =>
    rw [List.map_cons, List.lookup_cons, ih]
    by_cases same : name = n
    · simp [same]
    · simp [same, beq_false_of_ne same]

theorem lookup_ofPairs (pairs : List (String × String)) (name : String) :
    (ofPairs pairs).lookup name =
      if valuesOf name pairs = [] then none else some (valuesOf name pairs) := by
  rw [ofPairs_eq_map, lookup_map_names]
  by_cases given : name ∈ pairs.map Prod.fst
  · rw [if_pos (List.mem_eraseDups.2 given),
      if_neg (fun none => valuesOf_eq_nil_iff.1 none given)]
  · rw [if_neg (fun member => given (List.mem_eraseDups.1 member)),
      if_pos (valuesOf_eq_nil_iff.2 given)]

end EventCatalog.Parameters
