import Mathlib.Data.List.Perm.Basic

/-! Items that meet one of several exclusive tests. Up to order they are the items that meet the
first test, then those that meet the second, and so on.
-/

namespace Polystore

variable {α ι : Type}

/-- Items that meet either of two tests, never both, are those of the one and of the other. -/
theorem filter_or_perm {items : List α} {p q : α → Bool}
    (exclusive : ∀ a ∈ items, p a = true → q a = false)
    : (items.filter fun a => p a || q a).Perm (items.filter p ++ items.filter q) := by
  have parts := List.filter_append_perm p (items.filter fun a => p a || q a)
  have first : (items.filter fun a => p a || q a).filter p = items.filter p := by
    rw [List.filter_filter]
    exact List.filter_congr fun a _ => by cases p a <;> simp
  have second : (items.filter fun a => p a || q a).filter (fun a => !p a) = items.filter q := by
    rw [List.filter_filter]
    refine List.filter_congr fun a member => ?_
    cases hp : p a with
    | false => simp
    | true => simp [exclusive a member hp]
  rw [first, second] at parts
  exact parts.symm

/-- Items that meet one of several exclusive tests are, up to order, those of one test after the
other, by induction on the tests.
-/
theorem filter_any_perm {items : List α} {tests : List ι} {meets : ι → α → Bool}
    (exclusive
      : tests.Pairwise fun i j => ∀ a ∈ items, meets i a = true → meets j a = false)
    : (items.filter fun a => tests.any (meets · a)).Perm
        (tests.flatMap fun i => items.filter (meets i)) := by
  induction tests with
  | nil => simp
  | cons i rest ih =>
      obtain ⟨first, later⟩ := List.pairwise_cons.mp exclusive
      have apart : ∀ a ∈ items, meets i a = true → rest.any (meets · a) = false := by
        intro a member met
        rw [List.any_eq_false]
        intro j hj
        simp [first j hj a member met]
      simp only [List.any_cons, List.flatMap_cons]
      exact (filter_or_perm apart).trans ((ih later).append_left _)

/-- Where a member is the only one that meets a test, it is all that is left. -/
theorem filter_eq_singleton {items : List α} {p : α → Bool} {a : α} (member : a ∈ items)
    (met : p a = true) (apart : items.Pairwise fun x y => p x = true → p y = false)
    : items.filter p = [a] := by
  induction items with
  | nil => simp at member
  | cons x rest ih =>
      obtain ⟨first, later⟩ := List.pairwise_cons.mp apart
      cases hx : p x with
      | true =>
          have none : rest.filter p = [] := by
            rw [List.filter_eq_nil_iff]
            intro y hy
            simp [first y hy hx]
          rcases List.mem_cons.mp member with rfl | behind
          · rw [List.filter_cons_of_pos hx, none]
          · simp [first a behind hx] at met
      | false =>
          rcases List.mem_cons.mp member with rfl | behind
          · simp [hx] at met
          · rw [List.filter_cons_of_neg (by simp [hx]), ih behind later]

end Polystore
