import Mathlib.Data.List.Pairwise
import Polystore.Metadata.Integrity
import Polystore.Proofs.Entries.Keyed
import Polystore.Proofs.Entries.Ordered

/-! What an intact document is, whatever the order of its parts. Names are declared once, what is
referred to is declared, and no table is copied to its own database or twice to another. The checks
find no problem exactly in the documents of which this holds.
-/

namespace Polystore

-----------------------------------------------------------------------------------------
-- Columns that are declared
-----------------------------------------------------------------------------------------

/-- A column is found exactly if it is declared. -/
theorem Table.column?_isSome {t : Table} {name : String}
    : (t.column? name).isSome ↔ name ∈ t.columnNames := by
  simp [column?, columnNames]

/-- A column that is declared is found. -/
theorem Table.column?_of_mem {t : Table} {name : String} (member : name ∈ t.columnNames)
    : ∃ column, t.column? name = some column :=
  Option.isSome_iff_exists.mp (column?_isSome.mpr member)

namespace Document

/-- A table lacks none of some columns exactly when it declares all of them. -/
theorem lacking_eq_nil {t : Table} {names : List String}
    : lacking t names = [] ↔ ∀ name ∈ names, name ∈ t.columnNames := by
  simp only [lacking, List.filter_eq_nil_iff, ← Option.not_isSome, Bool.not_eq_true',
    Bool.not_eq_false, Table.column?_isSome]

-----------------------------------------------------------------------------------------
-- Parts that fit into a document
-----------------------------------------------------------------------------------------

/-- A table in a declared database, with columns for its key and for both ends of its relations. -/
structure TableFits (d : Document) (t : Table) : Prop where
  home : ∃ b ∈ d.databases, b.id = t.database
  columns : t.columnNames.Nodup
  key : ∀ name ∈ t.primaryKey, name ∈ t.columnNames
  relations
    : ∀ r ∈ t.relations,
        r.sourceColumn ∈ t.columnNames
        ∧ ∃ target ∈ d.tables, target.id = r.targetTable ∧ r.targetColumn ∈ target.columnNames

/-- A sync of a declared table into a declared database that is not its own. -/
structure SyncFits (d : Document) (s : Sync) : Prop where
  source : ∃ t ∈ d.tables, t.id = s.sourceTable ∧ t.database ≠ s.targetDatabase
  target : ∃ b ∈ d.databases, b.id = s.targetDatabase

/-- An entry of the cache for a declared table, which has the columns that are held. -/
def CacheFits (d : Document) (e : CachedTable) : Prop :=
  ∃ t ∈ d.tables,
    t.id = e.table ∧ ∀ names, e.columns = some names → ∀ name ∈ names, name ∈ t.columnNames

/-- Whether a row rule has the key of a value to compare with, if it compares. -/
def RowRule.Keyed (r : RowRule) : Prop :=
  r.operator.toOperator.isNullCheck = true ∨ ∃ key, r.contextKey = some key ∧ key ≠ ""

/-- A rule for a declared table, which has all columns that the rule names. -/
def RuleFits (d : Document) (r : TableRule) : Prop :=
  ∃ t ∈ d.tables,
    t.id = r.table
    ∧ (∀ names, r.allowed = .only names → ∀ name ∈ names, name ∈ t.columnNames)
    ∧ ∀ row ∈ r.rows, row.column ∈ t.columnNames ∧ RowRule.Keyed row

end Document

/-- Whether two syncs put no copies of the same table in the same database. -/
def Sync.Apart (s other : Sync) : Prop :=
  s.sourceTable = other.sourceTable → s.targetDatabase ≠ other.targetDatabase

instance : Std.Symm Sync.Apart where
  symm _ _ apart source same := apart source.symm same.symm

namespace Document

/-- A document in which every part fits and no two declarations collide. -/
structure WellFormed (d : Document) : Prop where
  databaseIds : (d.databases.map (·.id)).Nodup
  tableIds : (d.tables.map (·.id)).Nodup
  tableNames : (d.tables.map (·.apiName)).Nodup
  roleIds : (d.roles.map (·.id)).Nodup
  tables : ∀ t ∈ d.tables, d.TableFits t
  syncs : ∀ s ∈ d.syncs, d.SyncFits s
  apart : d.syncs.Pairwise Sync.Apart
  caches : ∀ e ∈ d.caches, d.CacheFits e
  rules : ∀ role ∈ d.roles, ∀ rule ∈ role.tables, d.RuleFits rule

-----------------------------------------------------------------------------------------
-- Checks that find no problem
-----------------------------------------------------------------------------------------

variable {d : Document}

theorem hasDatabase_iff {id : String} : d.hasDatabase id = true ↔ ∃ b ∈ d.databases, b.id = id := by
  simp [hasDatabase]

/-- Where no two tables share an id, the last one of an id is the one that has it. -/
theorem tableOfId?_eq_some_iff (distinct : (d.tables.map (·.id)).Nodup) {id : String} {t : Table}
    : d.tableOfId? id = some t ↔ t ∈ d.tables ∧ t.id = id := by
  have reversed : (d.tables.reverse.map (·.id)).Nodup := by
    rw [List.map_reverse, List.nodup_reverse]
    exact distinct
  rw [tableOfId?, find?_key_eq_some reversed, List.mem_reverse]

/-- What holds of the table of an id, if there is one, holds of the table that is declared. -/
theorem exists_tableOfId?_iff (distinct : (d.tables.map (·.id)).Nodup) {id : String}
    {holds : Table → Prop}
    : (∃ t, d.tableOfId? id = some t ∧ holds t) ↔ ∃ t ∈ d.tables, t.id = id ∧ holds t := by
  simp only [tableOfId?_eq_some_iff distinct, and_assoc]

theorem nameProblems_eq_nil
    : d.nameProblems = []
      ↔ (d.databases.map (·.id)).Nodup
        ∧ (d.tables.map (·.id)).Nodup
        ∧ (d.tables.map (·.apiName)).Nodup
        ∧ (d.roles.map (·.id)).Nodup := by
  simp only [nameProblems, List.append_eq_nil_iff, List.map_eq_nil_iff, repeated_eq_nil, and_assoc]

theorem relationProblems_eq_nil (distinct : (d.tables.map (·.id)).Nodup) {t : Table} {r : Relation}
    : d.relationProblems t r = []
      ↔ r.sourceColumn ∈ t.columnNames
        ∧ ∃ target ∈ d.tables,
            target.id = r.targetTable ∧ r.targetColumn ∈ target.columnNames := by
  rw [← exists_tableOfId?_iff distinct, relationProblems]
  cases d.tableOfId? r.targetTable <;> simp [lacking_eq_nil]

theorem tableProblems_eq_nil (distinct : (d.tables.map (·.id)).Nodup) {t : Table}
    : d.tableProblems t = [] ↔ d.TableFits t := by
  simp only [tableProblems, List.append_eq_nil_iff, List.map_eq_nil_iff, List.flatMap_eq_nil_iff,
    repeated_eq_nil, lacking_eq_nil, relationProblems_eq_nil distinct, ite_eq_left_iff,
    List.cons_ne_nil, imp_false, not_not, hasDatabase_iff]
  constructor
  · rintro ⟨⟨⟨home, columns⟩, key⟩, relations⟩
    exact ⟨home, columns, key, relations⟩
  · intro fits
    exact ⟨⟨⟨fits.home, fits.columns⟩, fits.key⟩, fits.relations⟩

theorem syncProblems_eq_nil (distinct : (d.tables.map (·.id)).Nodup) {earlier : List Sync}
    {s : Sync}
    : d.syncProblems earlier s = [] ↔ d.SyncFits s ∧ ∀ e ∈ earlier, e.Apart s := by
  have fits : d.SyncFits s
      ↔ (∃ t, d.tableOfId? s.sourceTable = some t ∧ t.database ≠ s.targetDatabase)
        ∧ ∃ b ∈ d.databases, b.id = s.targetDatabase := by
    rw [exists_tableOfId?_iff distinct]
    exact ⟨fun fits => ⟨fits.source, fits.target⟩, fun ⟨source, target⟩ => ⟨source, target⟩⟩
  rw [fits, ← hasDatabase_iff]
  simp only [syncProblems, List.append_eq_nil_iff, Sync.Apart]
  cases d.tableOfId? s.sourceTable with
  | none => simp
  | some t => simp only [Option.some.injEq, exists_eq_left']; simp; tauto

/-- Syncs behind others are without problems exactly if they fit, and no two of all of them collide,
by induction on the syncs.
-/
theorem syncProblemsFrom_eq_nil (distinct : (d.tables.map (·.id)).Nodup)
    {earlier syncs : List Sync}
    : d.syncProblemsFrom earlier syncs = []
      ↔ (∀ s ∈ syncs, d.SyncFits s ∧ ∀ e ∈ earlier, e.Apart s) ∧ syncs.Pairwise Sync.Apart := by
  induction syncs generalizing earlier with
  | nil => simp [syncProblemsFrom]
  | cons s rest ih =>
      rw [syncProblemsFrom, List.append_eq_nil_iff, syncProblems_eq_nil distinct, ih,
        List.forall_mem_cons, List.pairwise_cons]
      simp only [List.mem_append, List.mem_singleton, or_imp, forall_and, forall_eq]
      tauto

theorem cacheProblems_eq_nil (distinct : (d.tables.map (·.id)).Nodup) {e : CachedTable}
    : d.cacheProblems e = [] ↔ d.CacheFits e := by
  rw [CacheFits, ← exists_tableOfId?_iff distinct, cacheProblems]
  cases d.tableOfId? e.table <;> cases e.columns <;> simp [lacking_eq_nil]

theorem rowProblems_eq_nil {role : String} {t : Table} {r : RowRule}
    : rowProblems role t r = [] ↔ r.column ∈ t.columnNames ∧ RowRule.Keyed r := by
  cases null : r.operator.toOperator.isNullCheck <;>
    simp [rowProblems, lacking_eq_nil, RowRule.Keyed, Option.any_eq_true, null]

theorem ruleProblems_eq_nil (distinct : (d.tables.map (·.id)).Nodup) {role : String}
    {r : TableRule}
    : d.ruleProblems role r = [] ↔ d.RuleFits r := by
  rw [RuleFits, ← exists_tableOfId?_iff distinct, ruleProblems]
  cases d.tableOfId? r.table <;> cases r.allowed <;> simp [lacking_eq_nil, rowProblems_eq_nil]

/-- A document is intact exactly if it is well formed. -/
theorem intact_iff : d.Intact ↔ d.WellFormed := by
  simp only [Intact, problems, List.append_eq_nil_iff, List.flatMap_eq_nil_iff,
    nameProblems_eq_nil]
  constructor
  · rintro ⟨⟨⟨⟨⟨databases, ids, names, roles⟩, tables⟩, syncs⟩, caches⟩, rules⟩
    obtain ⟨fit, apart⟩ := (syncProblemsFrom_eq_nil ids).mp syncs
    exact {
      databaseIds := databases
      tableIds := ids
      tableNames := names
      roleIds := roles
      tables := fun t member => (tableProblems_eq_nil ids).mp (tables t member)
      syncs := fun s member => (fit s member).1
      apart := apart
      caches := fun e member => (cacheProblems_eq_nil ids).mp (caches e member)
      rules := fun role declared rule member =>
        (ruleProblems_eq_nil ids).mp (rules role declared rule member) }
  · intro h
    refine ⟨⟨⟨⟨⟨h.databaseIds, h.tableIds, h.tableNames, h.roleIds⟩, ?_⟩, ?_⟩, ?_⟩, ?_⟩
    · exact fun t member => (tableProblems_eq_nil h.tableIds).mpr (h.tables t member)
    · exact (syncProblemsFrom_eq_nil h.tableIds).mpr
        ⟨fun s member => ⟨h.syncs s member, nofun⟩, h.apart⟩
    · exact fun e member => (cacheProblems_eq_nil h.tableIds).mpr (h.caches e member)
    · exact fun role declared rule member =>
        (ruleProblems_eq_nil h.tableIds).mpr (h.rules role declared rule member)

end Document

end Polystore
