import Mathlib.Data.List.Nodup

/-! The items of a list that are not like an earlier one. No two of them are alike, every item is
like one of them, and they stand in the order of the list.
-/

namespace Polystore

variable {α : Type} (like : α → α → Bool)

/-- Kept items and, behind them, the items that are not like an earlier one. -/
def firsts (kept items : List α) : List α :=
  items.foldl (fun kept x => if kept.any (like · x) then kept else kept ++ [x]) kept

section

variable (items : List α) {like} {kept : List α}

theorem firsts_cons (x : α)
    : firsts like kept (x :: items)
      = firsts like (if kept.any (like · x) then kept else kept ++ [x]) items :=
  rfl

/-- No item is like an earlier one, by induction on the items. -/
theorem pairwise_firsts (h : kept.Pairwise fun x y => like x y = false)
    : (firsts like kept items).Pairwise fun x y => like x y = false := by
  induction items generalizing kept with
  | nil => exact h
  | cons x rest ih =>
      rw [firsts_cons]
      apply ih
      split
      · exact h
      next new =>
        rw [List.pairwise_append]
        refine ⟨h, List.pairwise_singleton .., fun k member other last => ?_⟩
        rw [List.mem_singleton.mp last]
        simpa using fun alike => new (List.any_eq_true.mpr ⟨k, member, alike⟩)

/-- No item is added that was not there, by induction on the items. -/
theorem mem_of_mem_firsts {x : α} (member : x ∈ firsts like kept items)
    : x ∈ kept ∨ x ∈ items := by
  induction items generalizing kept with
  | nil => exact .inl member
  | cons first rest ih =>
      rw [firsts_cons] at member
      rcases ih member with before | later
      · split at before
        · exact .inl before
        · rcases List.mem_append.mp before with before | new
          · exact .inl before
          · exact .inr (by simp [List.mem_singleton.mp new])
      · exact .inr (List.mem_cons_of_mem _ later)

theorem mem_firsts_of_mem {x : α} (member : x ∈ kept) : x ∈ firsts like kept items := by
  induction items generalizing kept with
  | nil => exact member
  | cons first rest ih =>
      rw [firsts_cons]
      apply ih
      split
      · exact member
      · exact List.mem_append_left _ member

/-- An item that is like itself is like one that is kept, by induction on the items. -/
theorem like_of_mem {x : α} (self : like x x = true) (member : x ∈ items)
    : ∃ first ∈ firsts like kept items, like first x = true := by
  induction items generalizing kept with
  | nil => simp at member
  | cons y rest ih =>
      rcases List.mem_cons.mp member with rfl | later
      · by_cases known : kept.any (like · x) = true
        · obtain ⟨first, before, alike⟩ := List.any_eq_true.mp known
          exact ⟨first, mem_firsts_of_mem (x :: rest) before, alike⟩
        · refine ⟨x, ?_, self⟩
          rw [firsts_cons, if_neg known]
          exact mem_firsts_of_mem rest (by simp)
      · exact ih later

end

-----------------------------------------------------------------------------------------
-- Firsts in order
-----------------------------------------------------------------------------------------

/-- The items of a list without those that are like an earlier one. Each is the first that is like
it, they stand in the order of the list, and every item is like one of them.
-/
structure FirstsOf (like : α → α → Bool) (items kept : List α) : Prop where
  first : ∀ x ∈ kept, items.find? (like · x) = some x
  covered : ∀ y ∈ items, ∃ x ∈ kept, like x y = true
  ordered : kept.Pairwise fun x y => items.findIdx (like · x) < items.findIdx (like · y)

namespace FirstsOf

variable {like} {items kept : List α} {x : α}

theorem findIdx_append (h : FirstsOf like items kept) (member : x ∈ kept) (more : List α)
    : (items ++ more).findIdx (like · x) = items.findIdx (like · x)
      ∧ items.findIdx (like · x) < items.length := by
  have found := h.first x member
  have self := List.find?_some found
  have before : items.findIdx (like · x) < items.length :=
    List.findIdx_lt_length_of_exists ⟨x, List.mem_of_find?_eq_some found, self⟩
  rw [List.findIdx_append, if_pos before]
  exact ⟨rfl, before⟩

theorem ordered_append (h : FirstsOf like items kept) (more : List α)
    : kept.Pairwise fun x y =>
        (items ++ more).findIdx (like · x) < (items ++ more).findIdx (like · y) :=
  h.ordered.imp_of_mem fun {x y} hx hy before => by
    rw [(h.findIdx_append hx more).1, (h.findIdx_append hy more).1]
    exact before

/-- An item that is like one that is kept is left out. -/
theorem leave_out (h : FirstsOf like items kept) (known : kept.any (like · x) = true)
    : FirstsOf like (items ++ [x]) kept := by
  constructor
  case first =>
    intro y member
    rw [List.find?_append, h.first y member, Option.some_or]
  case covered =>
    intro y member
    rcases List.mem_append.mp member with earlier | last
    · exact h.covered y earlier
    · rw [List.mem_singleton.mp last]
      exact List.any_eq_true.mp known
  case ordered => exact h.ordered_append [x]

/-- An item that is like none that is kept is the first of its like. -/
theorem keep (h : FirstsOf like items kept) (self : like x x = true)
    (trans : ∀ x y z, like x y = true → like y z = true → like x z = true)
    (new : kept.any (like · x) = false)
    : FirstsOf like (items ++ [x]) (kept ++ [x]) := by
  have unlike : ∀ y ∈ items, like y x = false := by
    intro y member
    obtain ⟨first, known, alike⟩ := h.covered y member
    rw [Bool.eq_false_iff]
    intro again
    exact List.any_eq_false.mp new first known (trans _ _ _ alike again)
  constructor
  case first =>
    intro y member
    rcases List.mem_append.mp member with known | last
    · rw [List.find?_append, h.first y known, Option.some_or]
    · rw [List.mem_singleton.mp last, List.find?_append,
        List.find?_eq_none.mpr fun y member => by simp [unlike y member]]
      simp [self]
  case covered =>
    intro y member
    rcases List.mem_append.mp member with earlier | last
    · obtain ⟨first, known, alike⟩ := h.covered y earlier
      exact ⟨first, List.mem_append_left _ known, alike⟩
    · exact ⟨x, by simp, by rwa [List.mem_singleton.mp last]⟩
  case ordered =>
    rw [List.pairwise_append]
    refine ⟨h.ordered_append [x], List.pairwise_singleton .., fun y known z last => ?_⟩
    obtain ⟨same, before⟩ := h.findIdx_append known [x]
    have none : ¬ items.findIdx (like · x) < items.length := by
      simpa [List.findIdx_lt_length] using unlike
    rw [List.mem_singleton.mp last, same, List.findIdx_append, if_neg none]
    omega

/-- Going on with more items leaves out those that are like an earlier one, by induction on them. -/
theorem firsts (h : FirstsOf like items kept)
    (trans : ∀ x y z, like x y = true → like y z = true → like x z = true) (more : List α)
    (self : ∀ x ∈ Polystore.firsts like kept more, like x x = true)
    : FirstsOf like (items ++ more) (Polystore.firsts like kept more) := by
  induction more generalizing items kept with
  | nil => simpa [Polystore.firsts] using h
  | cons x rest ih =>
      rw [firsts_cons] at self ⊢
      rw [← List.singleton_append, ← List.append_assoc]
      refine ih ?_ self
      split
      next known => exact h.leave_out known
      next new =>
        rw [if_neg new] at self
        exact h.keep (self x (mem_firsts_of_mem rest (by simp))) trans (by simpa using new)

end FirstsOf

-----------------------------------------------------------------------------------------
-- Repetitions
-----------------------------------------------------------------------------------------

/-- A list without repetitions is left as it is, by induction on the list. -/
theorem eraseDups_of_nodup [BEq α] [LawfulBEq α] {items : List α} (distinct : items.Nodup)
    : items.eraseDups = items := by
  induction items with
  | nil => rfl
  | cons x rest ih =>
      obtain ⟨new, distinct⟩ := List.nodup_cons.mp distinct
      have kept : rest.filter (fun other => !other == x) = rest := by
        rw [List.filter_eq_self]
        intro other member
        have different : other ≠ x := fun same => new (same ▸ member)
        simpa using different
      rw [List.eraseDups_cons, kept, ih distinct]

/-- Erasing repetitions leaves none, by recursion on what is left behind the first item. -/
theorem nodup_eraseDups [BEq α] [LawfulBEq α] : ∀ items : List α, items.eraseDups.Nodup
  | [] => .nil
  | x :: rest => by
      rw [List.eraseDups_cons, List.nodup_cons]
      exact ⟨by simp, nodup_eraseDups _⟩
termination_by items => items.length
decreasing_by exact Nat.lt_succ_of_le (List.length_filter_le ..)

end Polystore
