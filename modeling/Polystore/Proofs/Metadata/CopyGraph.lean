import Polystore.Proofs.Entries.Exclusive
import Polystore.Proofs.Entries.Lookup
import Polystore.Proofs.Metadata.Copies

/-! The copies of declared tables, seen by table and by database. Where copies are noted under
their databases no copy takes the place of another, since an intact document copies no table to its
own database or twice to another.
-/

namespace Polystore

-----------------------------------------------------------------------------------------
-- What copies are like
-----------------------------------------------------------------------------------------

/-- A copy that is the table itself. -/
structure Copy.OriginalOf (copy : Copy) (t : Table) : Prop where
  table : copy.table = t
  kind : copy.kindName = "original"
  name : copy.physicalName = t.physicalName
  lag : copy.lag? = none
  sync : copy.sync? = none

/-- A copy of a table that a sync makes. -/
structure Copy.ReplicaOf (copy : Copy) (t : Table) (s : Sync) : Prop where
  table : copy.table = t
  kind : copy.kindName = "materialized"
  name : copy.physicalName = s.targetPhysicalName
  lag : copy.lag? = some s.estimatedLag
  sync : copy.sync? = some s

theorem Copy.OriginalOf.of_home (t : Table) : (home t).OriginalOf t := ⟨rfl, rfl, rfl, rfl, rfl⟩

theorem Copy.ReplicaOf.of_replica (t : Table) (s : Sync) : (replica t s).ReplicaOf t s :=
  ⟨rfl, rfl, rfl, rfl, rfl⟩

theorem Copy.OriginalOf.eq_home {copy : Copy} {t : Table} (original : copy.OriginalOf t)
    : copy = .home t := by
  cases copy with
  | home => exact congrArg home original.table
  | replica => exact absurd original.sync nofun

theorem Copy.precedes_trans (a b c : Copy) (first : a.precedes b = true)
    (later : b.precedes c = true)
    : a.precedes c = true := by
  cases a <;> cases b <;> cases c <;> simp_all [precedes, isHome]
  all_goals exact le_trans first later

theorem Copy.precedes_total (a b : Copy) : (a.precedes b || b.precedes a) = true := by
  cases a <;> cases b <;> simp [precedes, isHome, le_total]

namespace Catalog

/-- The copies of a table by their databases, the table itself noted first and then the copies of
its syncs, each in the place of what was noted for its database before.
-/
def copiesByDatabase (c : Catalog) (t : Table) : Entries String Copy :=
  Entries.ofList ((c.copies t).map fun copy => (copy.database, copy))

variable {c : Catalog} {t : Table}

-----------------------------------------------------------------------------------------
-- Copies in databases of their own
-----------------------------------------------------------------------------------------

theorem mem_syncsOf {s : Sync} : s ∈ c.syncsOf t ↔ s ∈ c.document.syncs ∧ s.sourceTable = t.id := by
  simp [syncsOf]

/-- The syncs of a table go to different databases. -/
theorem nodup_targets (c : Catalog) (t : Table)
    : ((c.syncsOf t).map (·.targetDatabase)).Nodup := by
  have apart : (c.syncsOf t).Pairwise Sync.Apart := c.wellFormed.apart.filter _
  rw [List.Nodup, List.pairwise_map]
  refine apart.imp_of_mem fun hs hs' apart => apart ?_
  rw [(mem_syncsOf.mp hs).2, (mem_syncsOf.mp hs').2]

/-- The copies of a declared table are in different databases. -/
theorem nodup_databases (ht : t ∈ c.tables) : ((c.copies t).map Copy.database).Nodup := by
  have targets : ((c.syncsOf t).map (Copy.replica t)).map Copy.database
      = (c.syncsOf t).map (·.targetDatabase) := by
    rw [List.map_map]
    rfl
  rw [copies, List.map_cons, targets, List.nodup_cons]
  refine ⟨fun taken => ?_, nodup_targets c t⟩
  obtain ⟨s, member, home⟩ := List.mem_map.mp taken
  have replica : .replica t s ∈ c.copies t := List.mem_cons_of_mem _ (List.mem_map_of_mem member)
  exact Copy.noConfusion (eq_home_of_database ht replica home)

/-- No copy of a declared table takes the place of another. -/
theorem copiesByDatabase_eq (ht : t ∈ c.tables)
    : c.copiesByDatabase t = (c.copies t).map fun copy => (copy.database, copy) := by
  refine Entries.ofList_eq_self ?_
  rw [Entries.keys, List.map_map]
  exact nodup_databases ht

/-- The copy noted under a database is the copy that is found there. -/
theorem lookup_copiesByDatabase (ht : t ∈ c.tables) (database : String)
    : (c.copiesByDatabase t).lookup database = c.copyIn? t database := by
  have distinct : (c.copiesByDatabase t).keys.Nodup := by
    rw [copiesByDatabase_eq ht, Entries.keys, List.map_map]
    exact nodup_databases ht
  refine Option.ext fun copy => ?_
  rw [copyIn?_eq_some_iff ht]
  have noted : (database, copy) ∈ c.copiesByDatabase t
      ↔ copy ∈ c.copies t ∧ copy.database = database := by
    rw [copiesByDatabase_eq ht]
    simp only [List.mem_map, Prod.mk.injEq]
    constructor
    · rintro ⟨_, member, is, rfl⟩
      exact ⟨member, is⟩
    · rintro ⟨member, is⟩
      exact ⟨copy, member, is, rfl⟩
  rw [← noted]
  exact ⟨Entries.mem_of_lookup, Entries.lookup_of_mem distinct⟩

-----------------------------------------------------------------------------------------
-- Copies and databases in order
-----------------------------------------------------------------------------------------

theorem copiesInOrder_perm (c : Catalog) (t : Table) : (c.copiesInOrder t).Perm (c.copies t) :=
  List.mergeSort_perm ..

/-- The home copy comes first, as it precedes all replicas, and these come by their databases. -/
theorem copiesInOrder_eq (c : Catalog) (t : Table)
    : c.copiesInOrder t
      = .home t
        :: ((c.syncsOf t).mergeSort fun a b => a.targetDatabase ≤ b.targetDatabase).map
            (.replica t) := by
  obtain ⟨before, behind, sorted, replicas, passed⟩ := List.mergeSort_cons Copy.precedes_trans
    Copy.precedes_total (.home t) ((c.syncsOf t).map (.replica t))
  have first : before = [] := by
    refine List.eq_nil_iff_forall_not_mem.mpr fun copy member => ?_
    have listed : copy ∈ ((c.syncsOf t).map (Copy.replica t)).mergeSort Copy.precedes :=
      replicas ▸ List.mem_append_left _ member
    obtain ⟨s, _, rfl⟩ := List.mem_map.mp (List.mem_mergeSort.mp listed)
    exact absurd (passed _ member) (by simp [Copy.precedes, Copy.isHome])
  rw [copiesInOrder, copies, sorted, first, List.nil_append]
  rw [first, List.nil_append] at replicas
  rw [← replicas, List.map_mergeSort]
  intro s _ other _
  exact decide_eq_decide.mpr .rfl

/-- The replicas of a table, by strictly increasing databases. -/
theorem exists_replicas (c : Catalog) (t : Table)
    : ∃ replicas,
        c.copiesInOrder t = .home t :: replicas
        ∧ replicas.Pairwise fun copy other => copy.database < other.database := by
  refine ⟨_, copiesInOrder_eq c t, List.pairwise_map.mpr ?_⟩
  have ordered
      : ((c.syncsOf t).mergeSort fun a b => a.targetDatabase ≤ b.targetDatabase).Pairwise
          fun a b => decide (a.targetDatabase ≤ b.targetDatabase) = true :=
    List.pairwise_mergeSort (by simpa using fun _ _ _ => le_trans)
      (by simpa using fun _ _ => le_total _ _) _
  have different := ((List.mergeSort_perm (c.syncsOf t)
    fun a b => a.targetDatabase ≤ b.targetDatabase).map (·.targetDatabase)).nodup_iff.mpr
      (nodup_targets c t)
  exact ordered.imp₂ (fun a b le ne => lt_of_le_of_ne (of_decide_eq_true le) ne)
    (List.pairwise_map.mp different)

/-- The databases of copies are listed in strictly increasing order. -/
theorem pairwise_databasesOf (c : Catalog) (tables : List Table)
    : (c.databasesOf tables).Pairwise (· < ·) :=
  (pairwise_sortedOnce _).imp₂ (fun _ _ => lt_of_le_of_ne) (nodup_sortedOnce _)

/-- A database is listed exactly if a copy of one of the tables is found in it. -/
theorem mem_databasesOf_iff_copyIn? {tables : List Table} {database : String}
    : database ∈ c.databasesOf tables ↔ ∃ t ∈ tables, (c.copyIn? t database).isSome := by
  simp only [mem_databasesOf, copyIn?, List.find?_isSome, beq_iff_eq]

-----------------------------------------------------------------------------------------
-- Copies as the document has them
-----------------------------------------------------------------------------------------

/-- The copies of a table are what the document says of it: the table in its own database, and in
every other database what the one sync into it makes.
-/
structure CopiesMirrored (c : Catalog) (t : Table) : Prop where
  noted : ∀ database, (c.copiesByDatabase t).lookup database = c.copyIn? t database
  present
    : ∀ database,
        (c.copyIn? t database).isSome
        ↔ database = t.database
          ∨ ∃ s ∈ c.document.syncs, s.sourceTable = t.id ∧ s.targetDatabase = database
  placed : ∀ database copy, c.copyIn? t database = some copy → copy.database = database
  original
    : ∀ database copy,
        c.copyIn? t database = some copy → (copy.OriginalOf t ↔ database = t.database)
  replica
    : ∀ database copy,
        c.copyIn? t database = some copy
        → database ≠ t.database
        → ∃ s,
            c.document.syncs.filter
                (fun s => s.sourceTable == t.id && s.targetDatabase == database)
              = [s]
            ∧ copy.ReplicaOf t s
  home : c.copyIn? t t.database = some (.home t)
  once : (c.copiesInOrder t).Nodup
  listed : ∀ copy, copy ∈ c.copiesInOrder t ↔ c.copyIn? t copy.database = some copy
  ordered
    : ∃ replicas,
        c.copiesInOrder t = .home t :: replicas
        ∧ replicas.Pairwise fun copy other => copy.database < other.database

/-- The only sync of a declared table into a database. -/
theorem filter_syncs_eq_singleton {s : Sync} (listed : s ∈ c.document.syncs)
    (source : s.sourceTable = t.id)
    : c.document.syncs.filter
          (fun other => other.sourceTable == t.id && other.targetDatabase == s.targetDatabase)
        = [s] := by
  refine filter_eq_singleton listed (by simp [source]) (c.wellFormed.apart.imp ?_)
  intro a b apart met
  rw [Bool.and_eq_true, beq_iff_eq, beq_iff_eq] at met
  rw [Bool.and_eq_false_iff, beq_eq_false_iff_ne, beq_eq_false_iff_ne]
  exact not_and_or.mp fun both => apart (met.1.trans both.1.symm) (met.2.trans both.2.symm)

theorem copiesMirrored (ht : t ∈ c.tables) : c.CopiesMirrored t where
  noted := lookup_copiesByDatabase ht
  present database := by
    rw [copyIn?, List.find?_isSome]
    simp only [beq_iff_eq, mem_copies]
    constructor
    · rintro ⟨_, rfl | ⟨s, listed, source, rfl⟩, is⟩
      · exact .inl is.symm
      · exact .inr ⟨s, listed, source, is⟩
    · rintro (rfl | ⟨s, listed, source, is⟩)
      · exact ⟨.home t, .inl rfl, rfl⟩
      · exact ⟨.replica t s, .inr ⟨s, listed, source, rfl⟩, is⟩
  placed _ _ found := (mem_of_copyIn? found).2
  original database copy found := by
    obtain ⟨member, is⟩ := mem_of_copyIn? found
    constructor
    · intro original
      rw [← is, original.eq_home]
      rfl
    · intro home
      rw [eq_home_of_database ht member (is.trans home)]
      exact .of_home t
  replica database copy found away := by
    obtain ⟨member, rfl⟩ := mem_of_copyIn? found
    rcases mem_copies.mp member with rfl | ⟨s, listed, source, rfl⟩
    · exact absurd rfl away
    · exact ⟨s, filter_syncs_eq_singleton listed source, .of_replica t s⟩
  home := (copyIn?_eq_some_iff ht).mpr ⟨home_mem_copies c t, rfl⟩
  once := (copiesInOrder_perm c t).nodup_iff.mpr (nodup_databases ht).of_map
  listed copy := by
    rw [(copiesInOrder_perm c t).mem_iff, copyIn?_eq_some_iff ht]
    exact ⟨fun member => ⟨member, rfl⟩, And.left⟩
  ordered := exists_replicas c t

/-- In every catalog the copies of the declared tables are what the document says of them, and the
databases of some tables are those with a copy of one of them, by strictly increasing ids.
-/
theorem copyGraph_mirrors_document (c : Catalog)
    : (∀ t ∈ c.tables, c.CopiesMirrored t)
      ∧ ∀ tables : List Table,
          (∀ t ∈ tables, t ∈ c.tables)
          → (c.databasesOf tables).Pairwise (· < ·)
            ∧ ∀ database,
                database ∈ c.databasesOf tables
                ↔ ∃ t ∈ tables, (c.copyIn? t database).isSome :=
  ⟨fun _ => copiesMirrored, fun tables _ =>
    ⟨pairwise_databasesOf c tables, fun _ => mem_databasesOf_iff_copyIn?⟩⟩

end Catalog

-----------------------------------------------------------------------------------------
-- Two replicas
-----------------------------------------------------------------------------------------

namespace Sample

/-- The lake with a second copy of its orders, in an archive. -/
def archiveDocument : Document := {
  lakeDocument with
  databases := ⟨"archive", .clickhouse, none, none⟩ :: lakeDocument.databases
  syncs := lakeDocument.syncs ++ [⟨"o", "archive", "orders_archive", .debezium, .hours⟩] }

theorem archiveDocument_intact : archiveDocument.Intact := by decide +kernel

def archiveCatalog : Catalog := ⟨archiveDocument, archiveDocument_intact⟩

def lakeOrders : Table := { orders with database := "lake" }

theorem copyGraph_archiveCatalog
    : archiveCatalog.CopiesMirrored lakeOrders
      ∧ (archiveCatalog.databasesOf [lakeOrders]).Pairwise (· < ·)
      ∧ "archive" ∈ archiveCatalog.databasesOf [lakeOrders]
      ∧ ∃ copy,
          archiveCatalog.copyIn? lakeOrders "archive" = some copy
          ∧ copy.ReplicaOf lakeOrders
              ⟨"o", "archive", "orders_archive", .debezium, .hours⟩ := by
  have declared : lakeOrders ∈ archiveCatalog.tables := by decide
  obtain ⟨mirrored, databases⟩ := Catalog.copyGraph_mirrors_document archiveCatalog
  have mirrored := mirrored lakeOrders declared
  obtain ⟨ordered, listed⟩ := databases [lakeOrders] (by simpa using declared)
  refine ⟨mirrored, ordered, (listed _).mpr ⟨_, List.mem_singleton_self _, rfl⟩, ?_⟩
  obtain ⟨s, only, replica⟩ := mirrored.replica "archive" _ rfl (by decide)
  obtain rfl := List.singleton_inj.mp (only.symm.trans rfl)
  exact ⟨_, rfl, replica⟩

end Sample

end Polystore
