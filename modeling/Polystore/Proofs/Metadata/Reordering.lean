import Mathlib.Data.List.Find
import Polystore.Proofs.Metadata.Copies
import Polystore.Proofs.Planning.Agreement

/-! The order in which a metadata document declares things. An intact document stays intact when its
databases, tables, syncs and roles are put in another order, and the same is found in it, because
nothing that is looked up is declared twice.
-/

namespace Polystore

/-- Whether two documents declare the same databases, tables, syncs and roles in any order, and all
else alike. Of the entries of the cache the last one for a table counts, so that they keep theirs.
-/
structure Document.Reorders (d other : Document) : Prop where
  databases : other.databases.Perm d.databases
  tables : other.tables.Perm d.tables
  syncs : other.syncs.Perm d.syncs
  roles : other.roles.Perm d.roles
  caches : other.caches = d.caches
  federation : other.federation = d.federation

namespace Document

variable {d other : Document}

-----------------------------------------------------------------------------------------
-- Parts that fit
-----------------------------------------------------------------------------------------

namespace Reorders

variable (r : d.Reorders other)

include r

theorem tableFits {t : Table} (fits : d.TableFits t) : other.TableFits t where
  home := by simpa only [r.databases.mem_iff] using fits.home
  columns := fits.columns
  key := fits.key
  relations := by simpa only [r.tables.mem_iff] using fits.relations

theorem syncFits {s : Sync} (fits : d.SyncFits s) : other.SyncFits s where
  source := by simpa only [r.tables.mem_iff] using fits.source
  target := by simpa only [r.databases.mem_iff] using fits.target

theorem cacheFits {e : CachedTable} (fits : d.CacheFits e) : other.CacheFits e := by
  simpa only [CacheFits, r.tables.mem_iff] using fits

theorem ruleFits {rule : TableRule} (fits : d.RuleFits rule) : other.RuleFits rule := by
  simpa only [RuleFits, r.tables.mem_iff] using fits

/-- A well-formed document is well formed in any order. -/
theorem wellFormed (h : d.WellFormed) : other.WellFormed where
  databaseIds := (r.databases.map _).nodup_iff.mpr h.databaseIds
  tableIds := (r.tables.map _).nodup_iff.mpr h.tableIds
  tableNames := (r.tables.map _).nodup_iff.mpr h.tableNames
  roleIds := (r.roles.map _).nodup_iff.mpr h.roleIds
  tables := fun t member => r.tableFits (h.tables t (r.tables.mem_iff.mp member))
  syncs := fun s member => r.syncFits (h.syncs s (r.syncs.mem_iff.mp member))
  apart := (r.syncs.pairwise_iff symm).mpr h.apart
  caches := fun e member => r.cacheFits (h.caches e (r.caches ▸ member))
  rules := fun role member rule listed =>
    r.ruleFits (h.rules role (r.roles.mem_iff.mp member) rule listed)

end Reorders

end Document

-----------------------------------------------------------------------------------------
-- What is found
-----------------------------------------------------------------------------------------

/-- Whether two catalogs find the same, and list the same tables in any order. -/
structure Catalog.Reordered (c other : Catalog) : Prop extends c.Alike other where
  cached : ∀ t, other.cacheOf? t = c.cacheOf? t
  copies : ∀ t database, other.copyIn? t database = c.copyIn? t database
  places : ∀ tables, other.databasesOf tables = c.databasesOf tables
  declared : other.tables.Perm c.tables

namespace Document.Reorders

variable {c other : Catalog} (r : c.document.Reorders other.document)

include r

theorem copies_perm (t : Table) : (other.copies t).Perm (c.copies t) :=
  ((r.syncs.filter _).map _).cons _

/-- A database has the copy of a table at home, or else the one of the only sync of the table to it.
-/
theorem copyIn?_eq (t : Table) (database : String)
    : other.copyIn? t database = c.copyIn? t database := by
  simp only [Catalog.copyIn?, Catalog.copies, List.find?_cons]
  split
  · rfl
  · refine List.find?_eq_find?_of_perm ((r.syncs.filter _).map _) ?_
    rintro a ⟨here, is⟩ b ⟨there, is'⟩
    obtain ⟨s, listed, rfl⟩ := List.mem_map.mp here
    obtain ⟨s', listed', rfl⟩ := List.mem_map.mp there
    simp only [Catalog.syncsOf, List.mem_filter, beq_iff_eq] at listed listed' is is'
    congr 1
    by_contra different
    exact other.wellFormed.apart.forall listed.1 listed'.1 different
      (listed.2.trans listed'.2.symm) (is.trans is'.symm)

theorem databasesOf_eq (tables : List Table) : other.databasesOf tables = c.databasesOf tables := by
  apply sortedOnce_congr
  intro name
  simp only [List.mem_flatMap, List.mem_map, (r.copies_perm _).mem_iff]

/-- The catalogs of a document in two orders find the same. -/
theorem reordered : c.Reordered other where
  tables := find?_key_of_perm c.wellFormed.tableNames r.tables
  databases := find?_key_of_perm c.wellFormed.databaseIds r.databases
  rules := by
    intro role t
    simp only [Catalog.rule?, flatMap_key_of_perm c.wellFormed.roleIds r.roles]
  cached := fun t => by rw [Catalog.cacheOf?, Catalog.cacheOf?, r.caches]
  copies := r.copyIn?_eq
  places := r.databasesOf_eq
  declared := r.tables

end Document.Reorders

/-- A document that is accepted is accepted in any order, and the same is found in it. -/
theorem Catalog.exists_reordered {d other : Document} {c : Catalog} (made : ofDocument d = .ok c)
    (r : d.Reorders other)
    : ∃ c', ofDocument other = .ok c' ∧ c.Reordered c' := by
  unfold ofDocument at made
  split at made
  next intact =>
    cases made
    have intact' : other.Intact :=
      Document.intact_iff.mpr (r.wellFormed (Document.intact_iff.mp intact))
    exact ⟨⟨other, intact'⟩, dif_pos intact', Document.Reorders.reordered r⟩
  · cases made

end Polystore
