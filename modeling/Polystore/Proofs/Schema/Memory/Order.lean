import Polystore.Proofs.Entries.Keyed
import Polystore.Proofs.Entries.Lookup
import Polystore.Proofs.Trace.Outcomes
import Polystore.Schema.Memory.Order

/-! What the order of declared tables keeps. Whatever tables need of each other, also where they
need themselves, each of them comes out of the rounds once, so that putting tables in order only
moves them.
-/

namespace Polystore.Schema.Memory

namespace Needs

/-- The rounds only move items, by induction on how many there may be. -/
theorem rounds_perm (needs : Needs) (fuel : Nat) (items : List String)
    : (needs.rounds fuel items).Perm items := by
  induction fuel generalizing items with
  | zero => exact .refl _
  | succ fuel ih =>
      unfold rounds
      split
      · exact .refl _
      · have left : (items.filter fun item => !(needs.ready items).contains item)
            = items.filter fun item => !(needs.of item).all fun need => !items.contains need := by
          refine List.filter_congr fun item member => ?_
          have out : (needs.ready items).contains item
              = (needs.of item).all fun need => !items.contains need := by
            rw [Bool.eq_iff_iff, List.contains_iff_mem, ready, List.mem_filter,
              and_iff_right member]
          rw [out]
        rw [left]
        exact ((ih _).append_left _).trans (List.filter_append_perm ..)

/-- Putting items in order only moves them. -/
theorem ordered_perm (needs : Needs) : needs.ordered.Perm needs.keys := rounds_perm ..

end Needs

variable {tables : List Table}

/-- What a table needs is known where each of its references leads somewhere. -/
theorem exists_neededBy {t : Table}
    (leads : ∀ r ∈ t.references, ∀ p ∈ r.pairs, ∃ other, follow tables t p.1 p.2 = .ok other)
    : ∃ keys, neededBy tables t = .ok keys := by
  have firsts : ∀ p ∈ t.references.filterMap (·.pairs.head?),
      ∃ other, follow tables t p.1 p.2 = .ok other := by
    intro p listed
    obtain ⟨r, declared, first⟩ := List.mem_filterMap.mp listed
    exact leads r declared p (List.mem_of_mem_head? first)
  obtain ⟨found, followed⟩ := Outcome.exists_mapM_eq_ok firsts
  refine ⟨(found.map (·.key)).filter (· != t.key), ?_⟩
  unfold neededBy
  rw [followed]
  rfl

/-- The tables found by their keys in any order are the tables, in that order. -/
theorem find_keys_perm (distinct : (tables.map (·.key)).Nodup) {keys : List String}
    (perm : keys.Perm (tables.map (·.key)))
    : (keys.filterMap fun key => tables.find? fun t => t.key == key).Perm tables := by
  refine (perm.filterMap _).trans (.of_eq ?_)
  rw [List.filterMap_map]
  have own : ∀ t ∈ tables, (tables.find? fun u => u.key == t.key) = some t := fun t member =>
    find?_own_key member fun u other same => List.inj_on_of_nodup_map distinct other member same
  exact (List.filterMap_congr own).trans List.filterMap_some

/-- Declared tables can be put in order where each of their references leads somewhere, and no
table is lost or doubled by that.
-/
theorem exists_ordered (distinct : (tables.map (·.key)).Nodup)
    (leads
      : ∀ t ∈ tables,
          ∀ r ∈ t.references, ∀ p ∈ r.pairs, ∃ other, follow tables t p.1 p.2 = .ok other)
    : ∃ all, ordered tables = .ok all ∧ all.Perm tables := by
  have sorted : (tables.mergeSort fun a b => a.key ≤ b.key).Perm tables := List.mergeSort_perm ..
  unfold ordered
  generalize tables.mergeSort (fun a b => decide (a.key ≤ b.key)) = byKey at sorted
  have apart : (byKey.map (·.key)).Nodup := (sorted.map _).nodup_iff.mpr distinct
  have eachNeeds (t : Table) (member : t ∈ byKey)
      : ∃ e, (do return (t.key, ← neededBy tables t)) = .ok e ∧ e.1 = t.key := by
    obtain ⟨keys, needed⟩ := exists_neededBy (leads t (sorted.mem_iff.mp member))
    exact ⟨(t.key, keys), by rw [needed]; rfl, rfl⟩
  obtain ⟨needs, aligned⟩ := Outcome.exists_forall₂ eachNeeds
  have found := Outcome.mapM_eq_ok.mpr (aligned.imp fun _ _ both => both.1)
  have keys : Entries.keys needs = byKey.map (·.key) :=
    Entries.keys_of_forall₂ (R := fun _ _ => True)
      (List.forall₂_map_left_iff.mpr (aligned.imp fun _ _ both => ⟨both.2, trivial⟩))
  refine ⟨(Needs.ordered needs).filterMap fun key => byKey.find? fun t => t.key == key, ?_, ?_⟩
  · change (List.mapM _ byKey >>= _) = _
    rw [found]
    rfl
  · exact (find_keys_perm apart (keys ▸ Needs.ordered_perm needs)).trans sorted

end Polystore.Schema.Memory
