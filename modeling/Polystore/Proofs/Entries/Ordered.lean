import Mathlib.Data.List.Sort
import Mathlib.Data.String.Basic
import Polystore.Order
import Polystore.Proofs.Entries.Firsts

/-! Names in order, each once. What they come to depends on which names there are, and neither on
their order nor on how often each occurs.
-/

namespace Polystore

/-- Nothing is repeated among names exactly when each occurs once. -/
theorem repeated_eq_nil {names : List String} : repeated names = [] ↔ names.Nodup := by
  have sorting : repeated names = []
      ↔ names.eraseDups.filter (fun name => 1 < names.count name) = [] := by
    unfold repeated sorted
    rw [← List.length_eq_zero_iff, List.length_mergeSort, List.length_eq_zero_iff]
  rw [sorting, List.filter_eq_nil_iff, List.nodup_iff_count_le_one]
  constructor
  · intro h name
    by_cases member : name ∈ names
    · simpa using h name (List.mem_eraseDups.mpr member)
    · simp [List.count_eq_zero_of_not_mem member]
  · intro h name _
    simpa using h name

/-- There is nothing to put in order exactly when there are no names. -/
theorem sortedOnce_eq_nil {names : List String} : sortedOnce names = [] ↔ names = [] := by
  unfold sortedOnce sorted
  rw [← List.length_eq_zero_iff, List.length_mergeSort, List.length_eq_zero_iff]
  cases names <;> simp [List.eraseDups_cons]

theorem mem_sortedOnce {names : List String} {name : String}
    : name ∈ sortedOnce names ↔ name ∈ names := by
  simp only [sortedOnce, sorted, List.mem_mergeSort, List.mem_eraseDups]

theorem nodup_sortedOnce (names : List String) : (sortedOnce names).Nodup := by
  unfold sortedOnce sorted
  exact (List.mergeSort_perm ..).nodup_iff.mpr (nodup_eraseDups names)

theorem pairwise_sortedOnce (names : List String) : (sortedOnce names).Pairwise (· ≤ ·) := by
  have ordered : (names.eraseDups.mergeSort fun a b => a ≤ b).Pairwise
      fun a b => decide (a ≤ b) = true :=
    List.pairwise_mergeSort (by simpa using fun _ _ _ => le_trans) (by simpa using le_total) _
  simpa only [sortedOnce, sorted, decide_eq_true_eq] using ordered

/-- The same names, whatever their order, are the same in order. -/
theorem sortedOnce_congr {names others : List String}
    (same : ∀ name, name ∈ names ↔ name ∈ others)
    : sortedOnce names = sortedOnce others := by
  have perm : (sortedOnce names).Perm (sortedOnce others) := by
    rw [List.perm_ext_iff_of_nodup (nodup_sortedOnce names) (nodup_sortedOnce others)]
    simpa only [mem_sortedOnce] using same
  exact perm.eq_of_pairwise' (pairwise_sortedOnce names) (pairwise_sortedOnce others)

end Polystore
