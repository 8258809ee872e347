import Polystore.Metadata.Catalog
import Polystore.Proofs.Metadata.WellFormed

/-! What a catalog promises about the document behind it. Names are declared once, and the
columns that keys, relations and row rules name are there, so that looking an entry up gives
the declared one.
-/

namespace Polystore

-----------------------------------------------------------------------------------------
-- Names that are declared once
-----------------------------------------------------------------------------------------

namespace Catalog

theorem wellFormed (c : Catalog) : c.document.WellFormed := Document.intact_iff.mp c.intact

/-- A table found by name has that name and is declared. -/
theorem table?_eq_some {c : Catalog} {name : String} {t : Table} (found : c.table? name = some t)
    : t.apiName = name ∧ t ∈ c.tables := by
  unfold table? at found
  exact ⟨by simpa using List.find?_some found, List.mem_of_find?_eq_some found⟩

/-- Declared tables of one id are the same table. -/
theorem table_eq_of_id {c : Catalog} {t u : Table} (ht : t ∈ c.tables) (hu : u ∈ c.tables)
    (same : t.id = u.id)
    : t = u :=
  List.inj_on_of_nodup_map c.wellFormed.tableIds ht hu same

/-- No two columns of a declared table share a name. -/
theorem columnNames_nodup {c : Catalog} {t : Table} (ht : t ∈ c.tables)
    : t.columnNames.Nodup :=
  (c.wellFormed.tables t ht).columns

/-- A database with a declared id is found. -/
theorem exists_database_of_id {c : Catalog} {id : String}
    (declared : ∃ b ∈ c.document.databases, b.id = id)
    : ∃ d, c.database? id = some d := by
  apply Option.isSome_iff_exists.mp
  simpa [database?] using declared

/-- The database that is home to a declared table is declared. -/
theorem exists_database {c : Catalog} {t : Table} (ht : t ∈ c.tables)
    : ∃ d, c.database? t.database = some d :=
  exists_database_of_id (c.wellFormed.tables t ht).home

-----------------------------------------------------------------------------------------
-- Columns that are referred to
-----------------------------------------------------------------------------------------

/-- The columns of a primary key are declared. -/
theorem primaryKey_declared {c : Catalog} {t : Table} (ht : t ∈ c.tables) {key : String}
    (member : key ∈ t.primaryKey)
    : ∃ column, t.column? key = some column :=
  Table.column?_of_mem ((c.wellFormed.tables t ht).key key member)

/-- A relation starts at a declared column of the table that declares it, and ends at a
declared column of every declared table of its target's id. -/
theorem relation_declared {c : Catalog} {t target : Table} (ht : t ∈ c.tables)
    (htarget : target ∈ c.tables) {r : Relation} (member : r ∈ t.relations)
    (towards : r.targetTable = target.id)
    : (∃ column, t.column? r.sourceColumn = some column)
      ∧ ∃ column, target.column? r.targetColumn = some column := by
  obtain ⟨source, u, hu, is, declared⟩ := (c.wellFormed.tables t ht).relations r member
  rw [table_eq_of_id hu htarget (is.trans towards)] at declared
  exact ⟨Table.column?_of_mem source, Table.column?_of_mem declared⟩

/-- A rule found for a role is declared in a role of that id, for that table. -/
theorem rule?_eq_some {c : Catalog} {role : String} {t : Table} {rule : TableRule}
    (found : c.rule? role t = some rule)
    : rule.table = t.id
      ∧ ∃ r ∈ c.document.roles, r.id = role ∧ rule ∈ r.tables := by
  unfold rule? at found
  refine ⟨by simpa using List.find?_some found, ?_⟩
  have member := List.mem_reverse.mp (List.mem_of_find?_eq_some found)
  obtain ⟨r, hr, hrule⟩ := List.mem_flatMap.mp member
  split at hrule
  · next same => exact ⟨r, hr, by simpa using same, hrule⟩
  · exact absurd hrule (by simp)

/-- The columns of row rules are declared. -/
theorem rowRule_declared {c : Catalog} {role : String} {t : Table} {rule : TableRule}
    (ht : t ∈ c.tables) (found : c.rule? role t = some rule) {row : RowRule}
    (member : row ∈ rule.rows)
    : ∃ column, t.column? row.column = some column := by
  obtain ⟨table, r, declared, _, listed⟩ := rule?_eq_some found
  obtain ⟨u, hu, is, _, rows⟩ := c.wellFormed.rules r declared rule listed
  obtain rfl := table_eq_of_id hu ht (is.trans table)
  exact Table.column?_of_mem (rows row member).1

end Catalog

-----------------------------------------------------------------------------------------
-- A small catalog
-----------------------------------------------------------------------------------------

namespace Sample

def users : Table where
  id := "u"
  apiName := "users"
  database := "main"
  physicalName := "app_users"
  columns := [
    ⟨"id", "user_id", .int, false, true⟩, ⟨"name", "full_name", .string, true, false⟩,
    ⟨"tenant", "tenant_id", .string, true, false⟩]
  primaryKey := ["id"]
  relations := []

def orders : Table where
  id := "o"
  apiName := "orders"
  database := "main"
  physicalName := "shop_orders"
  columns := [
    ⟨"id", "order_id", .int, false, true⟩, ⟨"user", "user_id", .int, true, true⟩,
    ⟨"total", "amount", .decimal, true, false⟩, ⟨"tenant", "tenant_id", .string, true, false⟩]
  primaryKey := ["id"]
  relations := [⟨"user", "u", "id", .manyToOne⟩]

/-- Orders and the users who placed them. A clerk sees neither the rows of other tenants nor
the tenants themselves, and of orders only what they come to.
-/
def document : Document where
  databases := [⟨"main", .postgres, none, none⟩]
  tables := [users, orders]
  syncs := []
  caches := [⟨"u", "users:\x7bid\x7d", none, none⟩]
  roles := [
    ⟨"clerk", [
      ⟨"u", .only ["id", "name"], [⟨"tenant", .equal, some "tenant"⟩]⟩,
      ⟨"o", .only ["user", "total"], [
        ⟨"tenant", .equal, some "tenant"⟩, ⟨"total", .isNotNull, none⟩]⟩]⟩]
  federation := false

theorem document_intact : document.Intact := by decide +kernel

def catalog : Catalog := ⟨document, document_intact⟩

end Sample

end Polystore
