/-
# EventCatalog.Proofs.Outcome — when a chain of fallible steps succeeds

A chain succeeds exactly when each of its steps does, and then the parts of its result are
those of the steps, in order.
-/
import Mathlib.Data.List.Forall2

set_option autoImplicit false

namespace EventCatalog.Outcome

variable {ε α β γ : Type}

theorem map_eq_ok_iff {x : Except ε α} {f : α → β} {b : β} :
    x.map f = .ok b ↔ ∃ a, x = .ok a ∧ f a = b := by
  cases x <;> simp [Except.map]

theorem map_eq_error_iff {x : Except ε α} {f : α → β} {e : ε} :
    x.map f = .error e ↔ x = .error e := by
  cases x <;> simp [Except.map]

theorem bind_eq_ok_iff {x : Except ε α} {f : α → Except ε β} {b : β} :
    (x >>= f) = .ok b ↔ ∃ a, x = .ok a ∧ f a = .ok b := by
  cases x <;> simp [bind, Except.bind]

/-- A list of steps succeeds when each of them does. -/
theorem mapM_eq_ok_iff {f : α → Except ε β} {xs : List α} {ys : List β} :
    xs.mapM f = .ok ys ↔ List.Forall₂ (fun x y => f x = .ok y) xs ys := by
  induction xs generalizing ys with
  | nil =>
    rw [List.mapM_nil, List.forall₂_nil_left_iff]
    constructor
    · intro h
      exact (Except.ok.inj h).symm
    · rintro rfl
      rfl
  | cons x xs ih =>
    rw [List.mapM_cons, bind_eq_ok_iff, List.forall₂_cons_left_iff]
    constructor
    · rintro ⟨y, hy, h⟩
      obtain ⟨rest, hrest, same⟩ := bind_eq_ok_iff.1 h
      exact ⟨y, rest, hy, ih.1 hrest, (Except.ok.inj same).symm⟩
    · rintro ⟨y, rest, hy, hrest, rfl⟩
      exact ⟨y, hy, bind_eq_ok_iff.2 ⟨rest, ih.2 hrest, rfl⟩⟩

/-- A list of steps that may fail without a cause succeeds when each of them does. -/
theorem mapM_eq_some_iff {f : α → Option β} {xs : List α} {ys : List β} :
    xs.mapM f = some ys ↔ List.Forall₂ (fun x y => f x = some y) xs ys := by
  induction xs generalizing ys with
  | nil =>
    rw [List.mapM_nil, List.forall₂_nil_left_iff]
    constructor
    · intro h
      exact (Option.some.inj h).symm
    · rintro rfl
      rfl
  | cons x xs ih =>
    rw [List.mapM_cons, List.forall₂_cons_left_iff, Option.bind_eq_bind, Option.bind_eq_some_iff]
    constructor
    · rintro ⟨y, hy, h⟩
      obtain ⟨rest, hrest, same⟩ := Option.bind_eq_some_iff.1 h
      exact ⟨y, rest, hy, ih.1 hrest, (Option.some.inj same).symm⟩
    · rintro ⟨y, rest, hy, hrest, rfl⟩
      exact ⟨y, hy, Option.bind_eq_some_iff.2 ⟨rest, ih.2 hrest, rfl⟩⟩

/-- Two steps in a row succeed on every element when the first does, and the second does on
every result. -/
theorem forall₂_bind_iff {f : α → Except ε β} {g : β → Except ε γ} {xs : List α}
    {zs : List γ} :
    List.Forall₂ (fun x z => (f x >>= g) = .ok z) xs zs ↔
      ∃ ys, List.Forall₂ (fun x y => f x = .ok y) xs ys ∧
        List.Forall₂ (fun y z => g y = .ok z) ys zs := by
  constructor
  · intro h
    induction h with
    | nil => exact ⟨[], .nil, .nil⟩
    | cons step _ ih =>
      obtain ⟨y, hy, hz⟩ := bind_eq_ok_iff.1 step
      obtain ⟨ys, first, second⟩ := ih
      exact ⟨y :: ys, .cons hy first, .cons hz second⟩
  · rintro ⟨ys, first, second⟩
    induction first generalizing zs with
    | nil =>
      rw [List.forall₂_nil_left_iff.1 second]
      exact .nil
    | cons hy _ ih =>
      obtain ⟨z, rest, hz, hrest, rfl⟩ := List.forall₂_cons_left_iff.1 second
      exact .cons (bind_eq_ok_iff.2 ⟨_, hy, hz⟩) (ih hrest)

/-- Results for all elements can be listed when there is one for each. -/
theorem exists_forall₂_iff {R : α → β → Prop} {xs : List α} :
    (∃ ys, List.Forall₂ R xs ys) ↔ ∀ x ∈ xs, ∃ y, R x y := by
  induction xs with
  | nil => simp
  | cons x xs ih =>
    rw [List.forall_mem_cons, ← ih]
    constructor
    · rintro ⟨ys, h⟩
      obtain ⟨y, rest, hy, hrest, -⟩ := List.forall₂_cons_left_iff.1 h
      exact ⟨⟨y, hy⟩, rest, hrest⟩
    · rintro ⟨⟨y, hy⟩, rest, hrest⟩
      exact ⟨y :: rest, .cons hy hrest⟩

/-- A list of steps that may fail without a cause fails when one of them does. -/
theorem isSome_mapM_iff {f : α → Option β} {xs : List α} :
    (xs.mapM f).isSome = true ↔ ∀ x ∈ xs, (f x).isSome = true := by
  rw [Option.isSome_iff_exists]
  simp only [Option.isSome_iff_exists, mapM_eq_some_iff]
  exact exists_forall₂_iff

/-- What stands in the second of two related lists comes from the first. -/
theorem exists_of_mem_right {R : α → β → Prop} {xs : List α} {ys : List β}
    (related : List.Forall₂ R xs ys) {y : β} (listed : y ∈ ys) : ∃ x ∈ xs, R x y := by
  induction related with
  | nil => cases listed
  | @cons x y' xs ys first _ ih =>
    rcases List.mem_cons.1 listed with rfl | later
    · exact ⟨x, List.mem_cons_self, first⟩
    · obtain ⟨x', member, rest⟩ := ih later
      exact ⟨x', List.mem_cons_of_mem x member, rest⟩

/-- What stands in the first of two related lists comes to something in the second. -/
theorem exists_of_mem_left {R : α → β → Prop} {xs : List α} {ys : List β}
    (related : List.Forall₂ R xs ys) {x : α} (listed : x ∈ xs) : ∃ y ∈ ys, R x y := by
  apply exists_of_mem_right (R := fun y x => R x y) _ listed
  exact related.flip

end EventCatalog.Outcome
