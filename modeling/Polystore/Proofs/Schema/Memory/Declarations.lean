import Mathlib.Data.List.Nodup
import Polystore.Proofs.Entries.Keyed
import Polystore.Schema.Memory.Declaration

/-! What is known of declared tables. Each has a key and columns of its own, and its references
start at its columns. Where they lead is not known before one looks.
-/

namespace Polystore.Schema.Memory

/-- Tables that are declared one after the other. -/
inductive Declared : List Table → Prop where
  | none : Declared []
  | next {before after : List Table} {t : Table} (earlier : Declared before)
      (declares : declare before t = .ok after)
    : Declared after

/-- The columns that a table's references start at, each with its target. -/
def Table.links (t : Table) : List (String × Target) := t.references.flatMap (·.pairs)

/-- The names of a table's columns. -/
def Table.columnNames (t : Table) : List String := t.columns.map (·.name)

/-- A table with columns of different names, at which its links start. -/
structure Table.Consistent (t : Table) : Prop where
  columns : t.columnNames.Nodup
  sources : ∀ link ∈ t.links, link.1 ∈ t.columnNames

/-- Columns without defect have names of their own, by induction on the columns. -/
theorem nodup_of_columnDefect? {table : String} {before : List String} {columns : List Column}
    (none : columnDefect? table before columns = none)
    : (columns.map (·.name)).Nodup ∧ ∀ c ∈ columns, c.name ∉ before := by
  induction columns generalizing before with
  | nil => simp
  | cons c rest ih =>
      unfold columnDefect? at none
      split at none
      · cases none
      · split at none
        · cases none
        next new =>
          obtain ⟨distinct, apart⟩ := ih (Option.or_eq_none_iff.mp none).2
          rw [List.contains_iff_mem] at new
          constructor
          · rw [List.map_cons, List.nodup_cons]
            refine ⟨fun again => ?_, distinct⟩
            obtain ⟨other, member, same⟩ := List.mem_map.mp again
            exact apart other member (same ▸ List.mem_cons_self ..)
          · rintro other (_ | ⟨_, later⟩)
            · exact new
            · exact fun known => apart other later (List.mem_cons_of_mem _ known)

/-- The sources of a reference without defect are columns. -/
theorem mem_of_defectIn? {r : Reference} {t : Table} (none : r.defectIn? t = none)
    {link : String × Target} (member : link ∈ r.pairs)
    : link.1 ∈ t.columnNames := by
  unfold Reference.defectIn? at none
  split at none
  · cases none
  next known =>
    have here := List.find?_eq_none.mp known link.1 (List.of_mem_zip member).1
    simpa [Table.columnNames] using here

/-- A table without defect is consistent. -/
theorem consistent_of_defect? {t : Table} {declared : List Table} (none : t.defect? declared = none)
    : t.Consistent ∧ t.key ∉ declared.map (·.key) := by
  unfold Table.defect? at none
  split at none
  · cases none
  next new =>
    obtain ⟨columns, references⟩ := Option.or_eq_none_iff.mp none
    refine ⟨⟨(nodup_of_columnDefect? columns).1, fun link member => ?_⟩, by simpa using new⟩
    obtain ⟨r, declares, member⟩ := List.mem_flatMap.mp member
    exact mem_of_defectIn? (List.findSome?_eq_none_iff.mp references r declares) member

/-- A declaration adds a table without defect, or nothing. -/
theorem declare_eq_ok {before after : List Table} {t : Table} (h : declare before t = .ok after)
    : after = before ∨ after = before ++ [t] ∧ t.defect? before = none := by
  unfold declare at h
  split at h
  · cases h
  · split at h
    · cases h
      exact .inl rfl
    · split at h
      · cases h
      next fine =>
        cases h
        exact .inr ⟨rfl, fine⟩

namespace Declared

variable {tables : List Table}

/-- Declared tables are consistent and have keys of their own, by induction on the declarations. -/
theorem consistent (h : Declared tables)
    : (tables.map (·.key)).Nodup ∧ ∀ t ∈ tables, t.Consistent := by
  induction h with
  | none => simp
  | @next before after t _ declares ih =>
      rcases declare_eq_ok declares with rfl | ⟨rfl, fine⟩
      · exact ih
      · obtain ⟨consistent, new⟩ := consistent_of_defect? fine
        constructor
        · rw [List.map_append, List.map_singleton, List.nodup_append]
          refine ⟨ih.1, List.nodup_singleton _, fun key member other same => ?_⟩
          rw [List.mem_singleton] at same
          rintro rfl
          exact new (same ▸ member)
        · intro u member
          rcases List.mem_append.mp member with earlier | last
          · exact ih.2 u earlier
          · rw [List.mem_singleton.mp last]
            exact consistent

end Declared

-----------------------------------------------------------------------------------------
-- Where links lead
-----------------------------------------------------------------------------------------

/-- A link of a table leads to the table of its target's key, if that has the column which the
target names, or one of the name of the source column where it names none.
-/
structure LeadsTo (tables : List Table) (link : String × Target) (other : Table) : Prop where
  declared : other ∈ tables
  key : other.key = link.2.tableKey
  column : link.2.columnFor link.1 ∈ other.columnNames

/-- Following a link gives the table that it leads to. -/
theorem follow_eq_ok {tables : List Table} (distinct : (tables.map (·.key)).Nodup) {t : Table}
    {link : String × Target} {other : Table}
    : follow tables t link.1 link.2 = .ok other ↔ LeadsTo tables link other := by
  have columns (u : Table)
      : (u.columns.any fun c => c.name == link.2.columnFor link.1) = true
        ↔ link.2.columnFor link.1 ∈ u.columnNames := by
    simp [Table.columnNames]
  unfold follow
  constructor
  · intro followed
    split at followed
    · cases followed
    next found =>
      split at followed
      next known =>
        cases followed
        obtain ⟨declared, key⟩ := (find?_key_eq_some distinct).mp found
        exact ⟨declared, key, (columns _).mp known⟩
      · cases followed
  · intro leads
    rw [(find?_key_eq_some distinct).mpr ⟨leads.declared, leads.key⟩]
    exact if_pos ((columns _).mpr leads.column)

end Polystore.Schema.Memory
