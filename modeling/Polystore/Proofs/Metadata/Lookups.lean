import Polystore.Proofs.Entries.Lookup
import Polystore.Proofs.Metadata.Integrity

/-! What is found in a catalog, against what its document declares. Databases, tables and copies are
found as they are declared. Of several entries of the cache, or rules of a role, for one table only
the last is found, so that nothing is lost exactly where no two of them differ.
-/

namespace Polystore

namespace Catalog

variable {c : Catalog}

/-- The rule of a declared role for a table is the last of the role's own rules for it. -/
theorem rule?_eq_find? {role : Role} (declared : role ∈ c.document.roles) (t : Table)
    : c.rule? role.id t = role.tables.reverse.find? fun rule => rule.table == t.id := by
  rw [rule?, flatMap_of_key c.wellFormed.roleIds declared]

-----------------------------------------------------------------------------------------
-- What is found
-----------------------------------------------------------------------------------------

/-- A catalog in which the databases and tables of a document are found under their ids and names,
and nothing else, and its syncs with their tables in order.
-/
structure FindsNamed (c : Catalog) (d : Document) : Prop where
  databases : ∀ id b, c.database? id = some b ↔ b ∈ d.databases ∧ b.id = id
  tableIds : ∀ id t, c.tableOfId? id = some t ↔ t ∈ d.tables ∧ t.id = id
  tableNames : ∀ name t, c.table? name = some t ↔ t ∈ d.tables ∧ t.apiName = name
  syncs : ∀ t, c.syncsOf t = d.syncs.filter fun s => s.sourceTable == t.id
  everySync : ∀ s ∈ d.syncs, ∃ t ∈ d.tables, s ∈ c.syncsOf t

/-- A catalog in which every entry of the cache and every rule of a role that a document declares
is found with the table it is for.
-/
structure LosesNothing (c : Catalog) (d : Document) : Prop where
  caches : ∀ e ∈ d.caches, ∃ t ∈ d.tables, t.id = e.table ∧ c.cacheOf? t = some e
  rules
    : ∀ role ∈ d.roles,
        ∀ rule ∈ role.tables, ∃ t ∈ d.tables, t.id = rule.table ∧ c.rule? role.id t = some rule

end Catalog

/-- A document without different entries of the cache for one table, and without different rules
of one role for one table.
-/
structure Document.Unambiguous (d : Document) : Prop where
  caches : ∀ e ∈ d.caches, ∀ other ∈ d.caches, e.table = other.table → e = other
  rules
    : ∀ role ∈ d.roles,
        ∀ rule ∈ role.tables, ∀ other ∈ role.tables, rule.table = other.table → rule = other

namespace Catalog

variable {c : Catalog}

/-- A catalog that finds what maps would hold in which all that is declared is put under its key, a
later thing in the place of an earlier one.
-/
structure FindsNoted (c : Catalog) : Prop where
  databases : ∀ id, c.database? id = (Entries.noted c.document.databases (·.id)).lookup id
  tableIds : ∀ id, c.tableOfId? id = (Entries.noted c.document.tables (·.id)).lookup id
  tableNames : ∀ name, c.table? name = (Entries.noted c.document.tables (·.apiName)).lookup name
  tables : c.tables = (Entries.noted c.document.tables (·.id)).values
  caches : ∀ t, c.cacheOf? t = (Entries.noted c.document.caches (·.table)).lookup t.id

/-- In a catalog nothing is put in the place of something else, but for entries of the cache, of
which the last is found.
-/
theorem findsNoted (c : Catalog) : c.FindsNoted := by
  have noted {α : Type} {items : List α} {key : α → String} (distinct : (items.map key).Nodup)
      (name : String)
      : items.find? (fun a => key a == name) = (Entries.noted items key).lookup name := by
    rw [Entries.lookup_noted, find?_key_of_perm distinct (List.reverse_perm _)]
  constructor
  case databases => exact noted c.wellFormed.databaseIds
  case tableIds => exact noted c.wellFormed.tableIds
  case tableNames => exact noted c.wellFormed.tableNames
  case tables =>
    have distinct : (Entries.keys (c.document.tables.map fun t => (t.id, t))).Nodup := by
      rw [Entries.keys, List.map_map]
      exact c.wellFormed.tableIds
    rw [Entries.noted, Entries.ofList_eq_self distinct, Entries.values, List.map_map]
    exact (List.map_id _).symm
  case caches => exact fun t => (Entries.lookup_noted _ _ t.id).symm

theorem findsNamed (c : Catalog) : c.FindsNamed c.document := by
  constructor
  case databases => exact fun id b => find?_key_eq_some c.wellFormed.databaseIds
  case tableIds => exact fun id t => find?_key_eq_some c.wellFormed.tableIds
  case tableNames => exact fun name t => find?_key_eq_some c.wellFormed.tableNames
  case syncs => exact fun t => rfl
  case everySync =>
    intro s member
    obtain ⟨t, declared, source, _⟩ := (c.wellFormed.syncs s member).source
    exact ⟨t, declared, List.mem_filter.mpr ⟨member, by simp [source]⟩⟩

/-- The last of some items for each table are all that there are exactly where items for one table
are the same, if all are for declared tables.
-/
theorem finds_last_iff {α : Type} (items : List α) (table : α → String) {tables : List Table}
    (owned : ∀ a ∈ items, ∃ t ∈ tables, t.id = table a)
    : (∀ a ∈ items,
          ∃ t ∈ tables,
            t.id = table a ∧ items.reverse.find? (fun b => table b == t.id) = some a)
      ↔ ∀ a ∈ items, ∀ b ∈ items, table a = table b → a = b := by
  have last := find?_own_key_iff items.reverse table
  simp only [List.mem_reverse] at last
  rw [← last]
  refine forall₂_congr fun a member => ?_
  constructor
  · rintro ⟨t, _, is, found⟩
    rwa [is] at found
  · intro found
    obtain ⟨t, declared, is⟩ := owned a member
    exact ⟨t, declared, is, by rwa [is]⟩

/-- Nothing is lost exactly where the document is unambiguous. -/
theorem losesNothing_iff (c : Catalog) : c.LosesNothing c.document ↔ c.document.Unambiguous := by
  have cached : ∀ e ∈ c.document.caches, ∃ t ∈ c.document.tables, t.id = e.table := by
    intro e member
    obtain ⟨t, declared, is, _⟩ := c.wellFormed.caches e member
    exact ⟨t, declared, is⟩
  have ruled : ∀ role ∈ c.document.roles,
      ∀ rule ∈ role.tables, ∃ t ∈ c.document.tables, t.id = rule.table := by
    intro role listed rule member
    obtain ⟨t, declared, is, _⟩ := c.wellFormed.rules role listed rule member
    exact ⟨t, declared, is⟩
  have caches := finds_last_iff c.document.caches (·.table) cached
  have rules (role : Role) (declared : role ∈ c.document.roles) :=
    finds_last_iff role.tables (·.table) (ruled role declared)
  constructor
  · intro h
    refine ⟨caches.mp h.caches, fun role declared => (rules role declared).mp ?_⟩
    simpa only [rule?_eq_find? declared] using h.rules role declared
  · intro h
    refine ⟨caches.mpr h.caches, fun role declared => ?_⟩
    simpa only [rule?_eq_find? declared] using (rules role declared).mpr (h.rules role declared)

/-- In the catalog of a document every database, table and sync is found as it is declared, and
every entry of the cache and every rule exactly where the document is unambiguous.
-/
theorem finds_declared_iff {d : Document} (made : ofDocument d = .ok c)
    : c.FindsNamed d ∧ (c.LosesNothing d ↔ d.Unambiguous) := by
  unfold ofDocument at made
  split at made
  · cases made
    exact ⟨findsNamed _, losesNothing_iff _⟩
  · cases made

end Catalog

namespace Sample

/-- The clerk's rule for users, which hides those of other tenants. -/
def tenantRule : TableRule := ⟨"u", .only ["id", "name"], [⟨"tenant", .equal, some "tenant"⟩]⟩

/-- The document with another entry of the cache, and with another rule of the clerk, for users.
The other rule hides no rows.
-/
def doubledDocument : Document :=
  { document with
    caches := [⟨"u", "users:\x7bid\x7d", none, none⟩, ⟨"u", "people:\x7bid\x7d", none, none⟩]
    roles := [⟨"clerk", [tenantRule, ⟨"u", .only ["id", "name"], []⟩]⟩] }

/-- Where a role has two rules for a table the first is lost, and with it the condition on rows. -/
theorem first_rule_lost
    : ∃ c,
        Catalog.ofDocument doubledDocument = .ok c
        ∧ (∃ role ∈ doubledDocument.roles, role.id = "clerk" ∧ tenantRule ∈ role.tables)
        ∧ users ∈ doubledDocument.tables
        ∧ tenantRule.table = users.id
        ∧ (c.rule? "clerk" users).map (·.rows) = some []
        ∧ (c.cacheOf? users).map (·.keyPattern) = some "people:\x7bid\x7d"
        ∧ ¬ c.LosesNothing doubledDocument := by
  have intact : doubledDocument.Intact := by decide +kernel
  have made : Catalog.ofDocument doubledDocument = .ok ⟨doubledDocument, intact⟩ := dif_pos intact
  refine ⟨_, made, ⟨_, List.mem_singleton.mpr rfl, rfl, List.mem_cons_self ..⟩,
    List.mem_cons_self .., rfl, rfl, rfl, ?_⟩
  intro h
  have same := (Catalog.losesNothing_iff ⟨doubledDocument, intact⟩).mp h
  exact absurd (same.rules _ (List.mem_singleton.mpr rfl) tenantRule (List.mem_cons_self ..) _
    (List.mem_cons_of_mem _ (List.mem_cons_self ..)) rfl) (by decide)

/-- The rules of the clerk for users and for orders are both found. -/
theorem document_loses_nothing
    : Catalog.ofDocument document = .ok catalog
      ∧ document.Unambiguous
      ∧ catalog.FindsNamed document
      ∧ catalog.LosesNothing document := by
  have made : Catalog.ofDocument document = .ok catalog := dif_pos document_intact
  have unambiguous : document.Unambiguous := ⟨by decide, by decide⟩
  obtain ⟨named, lossless⟩ := Catalog.finds_declared_iff made
  exact ⟨made, unambiguous, named, lossless.mpr unambiguous⟩

end Sample

end Polystore
