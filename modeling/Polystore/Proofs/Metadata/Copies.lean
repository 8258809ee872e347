import Mathlib.Data.List.Pairwise
import Polystore.Copies
import Polystore.Proofs.Metadata.Integrity

/-! Where the copies of declared tables are. An intact document targets declared databases only,
and puts no two copies of a table in one database, so that a database has the one copy of a table
that is found in it.
-/

namespace Polystore

namespace Catalog

variable {c : Catalog} {t : Table} {copy other : Copy} {database : String}

-----------------------------------------------------------------------------------------
-- Copies of declared tables
-----------------------------------------------------------------------------------------

/-- The copies of a table are at home or made by one of its syncs. -/
theorem mem_copies
    : copy ∈ c.copies t
      ↔ copy = .home t
        ∨ ∃ s ∈ c.document.syncs, s.sourceTable = t.id ∧ copy = .replica t s := by
  simp only [copies, syncsOf, List.mem_cons, List.mem_map, List.mem_filter, beq_iff_eq]
  constructor
  · rintro (home | ⟨s, ⟨listed, source⟩, rfl⟩)
    · exact .inl home
    · exact .inr ⟨s, listed, source, rfl⟩
  · rintro (home | ⟨s, listed, source, rfl⟩)
    · exact .inl home
    · exact .inr ⟨s, ⟨listed, source⟩, rfl⟩

theorem home_mem_copies (c : Catalog) (t : Table) : .home t ∈ c.copies t :=
  mem_copies.mpr (.inl rfl)

/-- Every copy of a declared table is in a declared database. -/
theorem exists_database_of_copy (ht : t ∈ c.tables) (member : copy ∈ c.copies t)
    : ∃ d, c.database? copy.database = some d := by
  rcases mem_copies.mp member with rfl | ⟨s, listed, _, rfl⟩
  · exact exists_database ht
  · exact exists_database_of_id (c.wellFormed.syncs s listed).target

/-- The copy of a declared table in the database that is home to it is its home copy. -/
theorem eq_home_of_database (ht : t ∈ c.tables) (member : copy ∈ c.copies t)
    (home : copy.database = t.database)
    : copy = .home t := by
  rcases mem_copies.mp member with rfl | ⟨s, listed, source, rfl⟩
  · rfl
  · obtain ⟨u, hu, is, away⟩ := (c.wellFormed.syncs s listed).source
    obtain rfl := table_eq_of_id hu ht (is.trans source)
    exact absurd home.symm away

/-- No database has two copies of a declared table. -/
theorem copy_eq_of_database (ht : t ∈ c.tables) (member : copy ∈ c.copies t)
    (member' : other ∈ c.copies t) (same : copy.database = other.database)
    : copy = other := by
  rcases mem_copies.mp member with rfl | ⟨s, listed, source, rfl⟩
  · exact (eq_home_of_database ht member' same.symm).symm
  · rcases mem_copies.mp member' with rfl | ⟨s', listed', source', rfl⟩
    · exact eq_home_of_database ht member same
    · congr 1
      by_contra different
      exact c.wellFormed.apart.forall listed listed' different (source.trans source'.symm) same

-----------------------------------------------------------------------------------------
-- Looking up copies
-----------------------------------------------------------------------------------------

/-- A copy that is found in a database is there. -/
theorem mem_of_copyIn? (found : c.copyIn? t database = some copy)
    : copy ∈ c.copies t ∧ copy.database = database := by
  unfold copyIn? at found
  exact ⟨List.mem_of_find?_eq_some found, by simpa using List.find?_some found⟩

/-- The copy of a declared table that is found in a database is the one that is there. -/
theorem copyIn?_eq_some_iff (ht : t ∈ c.tables)
    : c.copyIn? t database = some copy ↔ copy ∈ c.copies t ∧ copy.database = database := by
  refine ⟨mem_of_copyIn?, fun ⟨member, is⟩ => ?_⟩
  have present : (c.copyIn? t database).isSome := by
    unfold copyIn?
    rw [List.find?_isSome]
    exact ⟨copy, member, by simp [is]⟩
  obtain ⟨found, hfound⟩ := Option.isSome_iff_exists.mp present
  obtain ⟨member', is'⟩ := mem_of_copyIn? hfound
  rw [hfound, copy_eq_of_database ht member' member (is'.trans is.symm)]

/-- A home copy is found exactly in the database that is home to the table. -/
theorem isHome_copyIn? : (c.copyIn? t database).any Copy.isHome = (t.database == database) := by
  cases home : t.database == database with
  | true => simp [copyIn?, copies, Copy.database, home, Copy.isHome]
  | false =>
      cases found : c.copyIn? t database with
      | none => rfl
      | some copy =>
          obtain ⟨member, is⟩ := mem_of_copyIn? found
          rcases mem_copies.mp member with rfl | ⟨s, _, _, rfl⟩
          · exact absurd is (ne_of_beq_false home)
          · rfl

/-- The databases that are listed are those of the copies of the tables. -/
theorem mem_databasesOf {tables : List Table}
    : database ∈ c.databasesOf tables
      ↔ ∃ t ∈ tables, ∃ copy ∈ c.copies t, copy.database = database := by
  simp only [databasesOf, sortedOnce, sorted, List.mem_mergeSort, List.mem_eraseDups,
    List.mem_flatMap, List.mem_map]

end Catalog

namespace Sample

/-- Users, and orders that are kept in a lake without a catalog and copied to the users within
minutes.
-/
def lakeDocument : Document where
  databases := [⟨"main", .postgres, none, none⟩, ⟨"lake", .iceberg, none, none⟩]
  tables := [users, { orders with database := "lake" }]
  syncs := [⟨"o", "main", "orders_copy", .debezium, .minutes⟩]
  caches := []
  roles := document.roles
  federation := false

theorem lakeDocument_intact : lakeDocument.Intact := by decide +kernel

def lakeCatalog : Catalog := ⟨lakeDocument, lakeDocument_intact⟩

end Sample

end Polystore
