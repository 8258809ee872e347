import Polystore.Proofs.Schema.Laws
import Polystore.Proofs.Schema.Memory.Declarations
import Polystore.Proofs.Schema.Memory.Order
import Polystore.Schema.Memory.MetaData

/-! Tables that are declared in memory obey the laws of metadata. Their foreign keys lead somewhere
where the links do, and to columns of the tables that they lead to.
-/

namespace Polystore.Schema.Memory

variable {declared : List Table}

@[simp]
theorem Table.columnNames_described (t : Table)
    : (t.described declared).columnNames = t.columnNames := by
  simp [Schema.Table.columnNames, described, columnNames, Column.described]

theorem names_metaData
    : (metaData declared).tables.map (·.name) = declared.map (·.name) := by
  rw [metaData, List.map_map]
  rfl

/-- The target of a foreign key is where its link leads. -/
theorem target_foreignKey {t : Table} {link : String × Target} {target : Schema.Target}
    (distinct : (declared.map (·.key)).Nodup)
    : (foreignKey declared t link).target = .ok target
      ↔ ∃ other,
          LeadsTo declared link other ∧ target = ⟨other.name, link.2.columnFor link.1⟩ := by
  simp only [← follow_eq_ok (t := t) distinct]
  unfold foreignKey
  cases follow declared t link.1 link.2 with
  | error defect => simp [Except.map]
  | ok other => simp [Except.map, eq_comm]

/-- The foreign keys lead somewhere exactly where the links do. -/
theorem resolved_metaData (distinct : (declared.map (·.key)).Nodup)
    : (metaData declared).Resolved
      ↔ ∀ t ∈ declared, ∀ link ∈ t.links, ∃ other, LeadsTo declared link other := by
  simp only [MetaData.Resolved, metaData, Table.described, List.forall_mem_map,
    target_foreignKey distinct]
  refine forall₂_congr fun t _ => forall₂_congr fun link _ => ?_
  constructor
  · rintro ⟨_, other, leads, _⟩
    exact ⟨other, leads⟩
  · rintro ⟨other, leads⟩
    exact ⟨_, other, leads, rfl⟩

theorem lawful_metaData (h : Declared declared) : (metaData declared).Lawful := by
  obtain ⟨distinct, consistent⟩ := h.consistent
  constructor
  case columns =>
    refine List.forall_mem_map.mpr fun t member => ?_
    rw [Table.columnNames_described]
    exact (consistent t member).columns
  case keys =>
    refine List.forall_mem_map.mpr fun t member name key => ?_
    rw [Table.columnNames_described]
    exact (List.filter_sublist.map _).subset key
  case parents =>
    refine List.forall_mem_map.mpr fun t member => List.forall_mem_map.mpr fun link links => ?_
    rw [Table.columnNames_described]
    exact (consistent t member).sources link links
  case sorts =>
    intro resolved
    have leads := (resolved_metaData distinct).mp resolved
    have followed : ∀ t ∈ declared, ∀ r ∈ t.references, ∀ p ∈ r.pairs,
        ∃ other, follow declared t p.1 p.2 = .ok other := by
      intro t member r declares p listed
      obtain ⟨other, leads⟩ := leads t member p (List.mem_flatMap.mpr ⟨r, declares, listed⟩)
      exact ⟨other, (follow_eq_ok distinct).mpr leads⟩
    obtain ⟨all, put, perm⟩ := exists_ordered distinct followed
    refine ⟨all.map (·.described declared), ?_, perm.map _⟩
    rw [metaData, put]
    rfl

/-- Where the names of tables differ, foreign keys point at columns of the tables of their targets'
names.
-/
theorem targetsBelong_metaData (h : Declared declared) (names : (declared.map (·.name)).Nodup)
    (included : Option (List String))
    : (metaData declared).TargetsBelong included := by
  refine List.forall_mem_map.mpr fun t _ _ => List.forall_mem_map.mpr fun link _ target is => ?_
  refine List.forall_mem_map.mpr fun other member _ same => ?_
  obtain ⟨found, leads, rfl⟩ := (target_foreignKey h.consistent.1).mp is
  obtain rfl : other = found := List.inj_on_of_nodup_map names member leads.declared same
  rw [Table.columnNames_described]
  exact leads.column

end Polystore.Schema.Memory
