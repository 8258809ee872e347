import Polystore.Proofs.Cache.Completion
import Polystore.Proofs.Planning.CacheReads

/-! What a cache that mirrors stored rows serves. Every row that counts has all columns that a
lookup needs, so that it takes the place of the stored row of its id.
-/

namespace Polystore

namespace Planning

variable {s : Setting} {l : Lookup} {q : Query} {asked : List Value} {p : Plan} {t : Table}

-----------------------------------------------------------------------------------------
-- Lookups in one table
-----------------------------------------------------------------------------------------

/-- A needed column that the table declares is one that cached rows hold. -/
theorem Answerable.mem_columns (h : Answerable s l) {name : String}
    (needed : name ∈ neededColumns s l.table)
    (declared : ∃ column, l.table.column? name = some column)
    : name ∈ l.entry.columns.getD l.table.columnNames := by
  cases listed : l.entry.columns with
  | none =>
      obtain ⟨column, found⟩ := declared
      have same : column.apiName = name := by simpa using List.find?_some found
      exact List.mem_map.mpr ⟨column, List.mem_of_find?_eq_some found, same⟩
  | some columns =>
      have none := sortedOnce_eq_nil.mp (h.held columns listed)
      simpa using List.filter_eq_nil_iff.mp none name needed

/-- A lookup by ids in one table, with a plan for it. -/
structure InTable (s : Setting) (q : Query) (asked : List Value) (p : Plan) (t : Table)
    : Prop where
  look : q.LooksUp asked
  resolvable : Statement.Resolvable s.catalog q s.context p
  granted : s.granted = p.granted
  source : s.catalog.table? q.source = some t
  single : s.tables = [t]

namespace InTable

theorem apiName_eq (h : InTable s q asked p t) : t.apiName = q.source :=
  (Catalog.table?_eq_some h.source).1

theorem idList_eq (h : InTable s q asked p t) : s.granted.query.idList = asked := by
  rw [h.granted, h.resolvable.granted.query, Query.idList, h.look.byIds, Option.getD_some]

theorem primaryKey_eq (h : InTable s q asked p t) : ∃ key, t.primaryKey = [key] :=
  h.resolvable.accepted.singleKey t (by simp [h.look.byIds]) h.source

/-- The table that a lookup is made in is that of the query. -/
theorem table_eq (h : InTable s q asked p t) (looked : lookup s = .ok l) : l.table = t := by
  have only := (answerable_of_lookup looked).tables
  rw [h.single, List.singleton_inj] at only
  exact only.symm

/-- The conditions by which rows of the cache are checked are those of the row rules. -/
theorem rowsOf_eq (h : InTable s q asked p l.table)
    : rowsOf s l = s.catalog.rowConditions s.context q.source := by
  obtain ⟨scope, rule, only, rights⟩ :=
    h.resolvable.granted.scopes_eq h.resolvable.accepted h.look.joins
  rw [rowsOf, h.granted, only, h.apiName_eq, List.lookup_cons_self]
  exact Statement.rows_of_scopes rights

/-- What is selected is of the table, and declared there. -/
theorem selected (h : InTable s q asked p t) {ref : ColumnRef}
    (member : ref ∈ p.granted.selection)
    : ref.table = q.source ∧ ∃ column, s.catalog.refColumn? ref = some column :=
  ⟨h.resolvable.granted.table_eq_of_mem h.resolvable.accepted h.look.joins member,
    (h.resolvable.declared_of_allows (h.resolvable.granted.allows_of_selection member)).2⟩

/-- A reference to the table is to what the table declares. -/
theorem refColumn?_eq (h : InTable s q asked p t) {ref : ColumnRef} (of : ref.table = q.source)
    : s.catalog.refColumn? ref = t.column? ref.column := by
  simp only [Catalog.refColumn?, of, h.source, Option.bind_some]

/-- The key column goes by the same name wherever it is selected. -/
theorem keyName_eq (h : InTable s q asked p t) {key : String} (single : t.primaryKey = [key])
    {ref : ColumnRef} (of : ref.table = q.source) (is : ref.column = key)
    : (s.catalog.columnName ref).physicalName = s.catalog.keyName q.source := by
  have same : s.catalog.refColumn? ref = s.catalog.refColumn? ⟨q.source, key, false⟩ := by
    rw [h.refColumn?_eq of, h.refColumn?_eq rfl, is]
  simp only [Catalog.keyName, h.source, Option.bind_some, single, List.head?_cons,
    Catalog.columnName, same]

-----------------------------------------------------------------------------------------
-- Rows that count
-----------------------------------------------------------------------------------------

variable {v : Semantics.Conventions} {key : String} {rows : List Row}

/-- A mirrored row that has the columns of the row rules takes the place of a stored one. -/
theorem replaces (h : InTable s q asked p l.table) (answerable : Answerable s l)
    (byValue : v.ByValue) (single : l.table.primaryKey = [key]) {id : Value} {row : Row}
    (mirrors
      : Cache.Mirrors s.catalog s.context l.table (l.entry.columns.getD l.table.columnNames)
          rows id row)
    (covers : row.covers (s.catalog.rowConditions s.context q.source) = true)
    : ∃ stored ∈ rows,
        Cache.Replaces v s.catalog s.context q.source p.granted.selection key id row stored := by
  have name := h.apiName_eq
  obtain ⟨scope, rule, only, rights⟩ :=
    h.resolvable.granted.scopes_eq h.resolvable.accepted h.look.joins
  have table : scope.table = l.table := by
    have same := rights.table
    rwa [h.source, Option.some.injEq, eq_comm] at same
  obtain ⟨stored, member, equal, standsFor⟩ := mirrors.stored
  rw [name] at equal
  have held {column : String} (needed : column ∈ neededColumns s l.table)
      (declared : ∃ found, l.table.column? column = some found)
      : row.has column = true :=
    mirrors.whole (by rwa [name]) column (answerable.mem_columns needed declared)
  have keyRef : ∃ column, s.catalog.refColumn? ⟨q.source, key, false⟩ = some column := by
    rw [h.refColumn?_eq rfl]
    exact Catalog.primaryKey_declared (Catalog.table?_eq_some h.source).2 (by simp [single])
  refine ⟨stored, member, equal, ?meets, ?agrees, ?key⟩
  case meets =>
    exact Cache.StandsFor.meets_eq byValue rights (by rwa [table]) covers
  case agrees =>
    refine standsFor.agrees
      (h.resolvable.granted.labels_nodup h.resolvable.accepted h.look.joins) ?_
      (fun ref selected => (h.selected selected).2) fun ref selected => ?_
    · intro ref selected
      rw [(h.selected selected).1, h.source]
    · obtain ⟨of, declared⟩ := h.selected selected
      rw [h.refColumn?_eq of] at declared
      refine held ?_ declared
      simp only [neededColumns, h.granted, List.mem_append]
      exact .inl (.inl (List.mem_map_of_mem selected))
  case key =>
    have declared := keyRef
    rw [h.refColumn?_eq rfl] at declared
    have equal := standsFor.equal_of_ref ⟨q.source, key, false⟩ h.source keyRef
      (held (by simp [neededColumns, single]) declared)
    rwa [h.keyName_eq single rfl rfl] at equal

variable {keys : List (Value × String)} {values : Entries String Value}

/-- All that a faithful cache has under the keys of ids can be read, and mirrors stored rows. -/
theorem read_of_faithful (h : InTable s q asked p l.table)
    (faithful
      : l.cache.Faithful s.facilities.runtime s.catalog s.context l.table l.entry rows asked)
    (reads : Reads s l keys values) {e : Value × String} (member : e ∈ keys)
    : ∃ held,
        Cache.row? s.nesting ((values.lookup e.2).getD .null) = .ok held
        ∧ ∀ row ∈ held,
            Cache.Mirrors s.catalog s.context l.table
              (l.entry.columns.getD l.table.columnNames) rows e.1 row := by
  cases found : values.lookup e.2 with
  | none => exact ⟨none, rfl, nofun⟩
  | some value =>
      have keyed := reads.keyed
      rw [h.idList_eq] at keyed
      exact faithful keys values keyed reads.answered e member value found

/-- A held row mirrors a stored one, and has the columns of the row rules. -/
theorem of_heldRow (h : InTable s q asked p l.table)
    (faithful
      : l.cache.Faithful s.facilities.runtime s.catalog s.context l.table l.entry rows asked)
    (reads : Reads s l keys values) {e : Value × String} (member : e ∈ keys) {row : Row}
    {conditions : List (Condition ColumnRef)}
    (held : heldRow s.nesting values conditions e.2 = some row)
    : Cache.Mirrors s.catalog s.context l.table (l.entry.columns.getD l.table.columnNames)
        rows e.1 row
      ∧ row.covers conditions = true := by
  obtain ⟨found, read, mirrors⟩ := h.read_of_faithful faithful reads member
  rw [heldRow, read] at held
  obtain ⟨held, covers⟩ := Option.filter_eq_some_iff.mp held
  exact ⟨mirrors row held, covers⟩

/-- Whatever counts of what a faithful cache has takes the place of stored rows. -/
theorem replacing (h : InTable s q asked p l.table)
    (faithful
      : l.cache.Faithful s.facilities.runtime s.catalog s.context l.table l.entry rows asked)
    (byValue : v.ByValue) (single : l.table.primaryKey = [key]) (reads : Reads s l keys values)
    : Cache.Replacing v s.catalog s.context q.source rows s.nesting p.granted.selection key values
        keys := by
  intro e member row held
  obtain ⟨mirrors, covers⟩ := h.of_heldRow faithful reads member held
  exact h.replaces (answerable_of_lookup reads.looked) byValue single mirrors covers

/-- What a faithful cache has can be sifted. -/
theorem sift_eq (h : InTable s q asked p l.table)
    (faithful
      : l.cache.Faithful s.facilities.runtime s.catalog s.context l.table l.entry rows asked)
    (byValue : v.ByValue) (reads : Reads s l keys values)
    : sift s.nesting values (rowsOf s l) keys
      = .ok (sifted s.nesting values (rowsOf s l) keys) := by
  obtain ⟨key, single⟩ := h.primaryKey_eq
  apply sift_eq_ok
  · intro e member
    obtain ⟨held, read, _⟩ := h.read_of_faithful faithful reads member
    exact ⟨held, read⟩
  · intro e member row held
    rw [h.rowsOf_eq] at held ⊢
    obtain ⟨stored, _, replaces⟩ := h.replacing faithful byValue single reads e member row held
    exact ⟨_, replaces.meets⟩

/-- The ids with keys are the distinct ids of the lookup. -/
theorem keys_eq (h : InTable s q asked p t) (reads : Reads s l keys values)
    : keys.map Prod.fst = Value.distinct asked := by
  rw [← h.idList_eq, reads.apart.1]

/-- The rows of a hit of a faithful cache, merged with those fetched for the ids that it leaves
open, are the rows that all ids of the lookup lead to.
-/
theorem merged_sameRows (h : InTable s q asked p l.table)
    (faithful
      : l.cache.Faithful s.facilities.runtime s.catalog s.context l.table l.entry rows asked)
    (byValue : v.ByValue) (single : l.table.primaryKey = [key])
    (scalars : ∀ id ∈ asked, id.isCollection = false)
    (keyed : Keyed (s.catalog.keyName q.source) rows) (reads : Reads s l keys values)
    {fetched : List Row}
    (others
      : fetched.Perm
          ((Cache.soughtRows v s.catalog s.context q.source rows
              (hitOf s.nesting values (rowsOf s l) keys l.table.database).fallback).map
            (s.catalog.projected p.granted.selection)))
    : ∃ found,
        Cache.merged (hitOf s.nesting values (rowsOf s l) keys l.table.database).visibleRows
          fetched p.granted.selection key
          = .ok found
        ∧ SameRows found
            ((Cache.soughtRows v s.catalog s.context q.source rows asked).map
              (s.catalog.projected p.granted.selection)) := by
  have apart := reads.apart.2
  rw [h.rowsOf_eq, apart.fallback_hitOf] at others
  have merged := Cache.merged_sameRows keyed
    (h.resolvable.granted.labels_nodup h.resolvable.accepted h.look.joins)
    (fun ref selected is => h.keyName_eq single (h.selected selected).1 is) apart
    (h.replacing faithful byValue single reads) others
  rwa [h.keys_eq reads, Cache.soughtRows_distinct scalars, ← apart.visibleRows_hitOf,
    ← h.rowsOf_eq] at merged

end InTable

end Planning

end Polystore
