import Mathlib.Data.List.Nodup

/-! Items found by a key. Where no key occurs twice, a key finds the one item that has it; where
some do, an item is found under its key only if all items of that key are the same.
-/

namespace Polystore

variable {α : Type} {items : List α} {key : α → String}

/-- An item is found under its key where all items of that key are the same. -/
theorem find?_own_key {a : α} (member : a ∈ items)
    (alike : ∀ b ∈ items, key b = key a → b = a)
    : items.find? (fun b => key b == key a) = some a := by
  have present : (items.find? fun b => key b == key a).isSome := by
    rw [List.find?_isSome]
    exact ⟨a, member, by simp⟩
  obtain ⟨b, found⟩ := Option.isSome_iff_exists.mp present
  have same : key b = key a := by simpa using List.find?_some found
  rw [found, alike b (List.mem_of_find?_eq_some found) same]

/-- Where no key occurs twice, the item found under a key is the one that has it. -/
theorem find?_key_eq_some (distinct : (items.map key).Nodup) {name : String} {a : α}
    : items.find? (fun b => key b == name) = some a ↔ a ∈ items ∧ key a = name := by
  constructor
  · intro found
    exact ⟨List.mem_of_find?_eq_some found, by simpa using List.find?_some found⟩
  · rintro ⟨member, rfl⟩
    exact find?_own_key member fun b hb same => List.inj_on_of_nodup_map distinct hb member same

/-- Where no key occurs twice, the order of the items does not matter. -/
theorem find?_key_of_perm {others : List α} (distinct : (items.map key).Nodup)
    (perm : others.Perm items) (name : String)
    : others.find? (fun b => key b == name) = items.find? (fun b => key b == name) := by
  apply Option.ext
  intro a
  rw [find?_key_eq_some distinct, find?_key_eq_some ((perm.map key).nodup_iff.mpr distinct),
    perm.mem_iff]

/-- Every item is found under its key exactly where items that share a key are the same. -/
theorem find?_own_key_iff (items : List α) (key : α → String)
    : (∀ a ∈ items, items.find? (fun b => key b == key a) = some a)
      ↔ ∀ a ∈ items, ∀ b ∈ items, key a = key b → a = b := by
  constructor
  · intro finds a ha b hb same
    have found := finds a ha
    rw [same, finds b hb] at found
    exact (Option.some.inj found).symm
  · intro alike a ha
    exact find?_own_key ha fun b hb same => alike b hb a ha same

/-- The lists of the items with a key are that of the one item that has it, by induction on the
items.
-/
theorem flatMap_of_key {β : Type} {lists : α → List β} (distinct : (items.map key).Nodup) {a : α}
    (member : a ∈ items)
    : (items.flatMap fun b => if key b == key a then lists b else []) = lists a := by
  induction items with
  | nil => cases member
  | cons first rest ih =>
      rw [List.map_cons, List.nodup_cons] at distinct
      obtain ⟨new, later⟩ := distinct
      rw [List.flatMap_cons]
      rcases List.mem_cons.mp member with rfl | behind
      · have others : (rest.flatMap fun b => if key b == key a then lists b else []) = [] := by
          rw [List.flatMap_eq_nil_iff]
          intro b hb
          have different : key b ≠ key a := fun same => new (List.mem_map.mpr ⟨b, hb, same⟩)
          rw [beq_false_of_ne different, if_neg Bool.false_ne_true]
        rw [others, beq_self_eq_true, if_pos rfl, List.append_nil]
      · have different : key first ≠ key a :=
          fun same => new (List.mem_map.mpr ⟨a, behind, same.symm⟩)
        rw [beq_false_of_ne different, if_neg Bool.false_ne_true, List.nil_append, ih later behind]

/-- Where no key occurs twice, the list of the item with a key does not depend on the order of the
items.
-/
theorem flatMap_key_of_perm {β : Type} {lists : α → List β} {others : List α}
    (distinct : (items.map key).Nodup) (perm : others.Perm items) (name : String)
    : (others.flatMap fun b => if key b == name then lists b else [])
      = items.flatMap fun b => if key b == name then lists b else [] := by
  by_cases there : ∃ a ∈ items, key a = name
  · obtain ⟨a, member, rfl⟩ := there
    rw [flatMap_of_key distinct member,
      flatMap_of_key ((perm.map key).nodup_iff.mpr distinct) (perm.mem_iff.mpr member)]
  · have none (b : α) (member : b ∈ items) : (if key b == name then lists b else []) = [] :=
      if_neg (by simpa using fun is => there ⟨b, member, is⟩)
    rw [List.flatMap_eq_nil_iff.mpr none,
      List.flatMap_eq_nil_iff.mpr fun b member => none b (perm.mem_iff.mp member)]

end Polystore
