import Mathlib
import Polystore.Proofs.Cache.Serving
import Polystore.Proofs.Service.Writing
import Polystore.Proofs.Sql.Restrictions

/-! Lookups with and without a cache. Whatever is found in a cache that mirrors the stored rows,
and whatever is left to the database, the rows of a lookup are up to order those that the
database alone answers it with.
-/

namespace Polystore.Service

open Semantics Planning Outcome

variable {s : Service} {q : Query} {context : Context} {prepared : Prepared}
  {asked ids : List Value} {v : Conventions} {rows : List Row} {p : Plan} {t : Table}

/-- The same service but for the cache, of which there is none. -/
def withoutCache (s : Service) : Service :=
  { s with facilities := Planning.withoutCache s.facilities }

-----------------------------------------------------------------------------------------
-- Statements of lookups
-----------------------------------------------------------------------------------------

/-- The executor answers the statement that a query is prepared with as the reference evaluation
over some stored rows does, in whatever order.
-/
def Evaluates (s : Service) (q : Query) (context : Context) (v : Conventions) (rows : List Row)
    : Prop :=
  ∀ executor, s.executor = some executor
  → ∀ prepared statement compiled, s.Prepares q context prepared
  → prepared.statement = some (statement, compiled)
  → ∃ found,
      executor ⟨compiled.sql, compiled.params, compiled.target⟩ = .ok found
      ∧ found.Perm (evaluate v statement fun _ => rows)

/-- What is prepared has a plan that can be resolved. -/
theorem Prepares.resolvable (h : s.Prepares q context prepared)
    : Statement.Resolvable s.catalog q context prepared.plan :=
  Statement.resolvable_of_plan h.valid h.granted h.planned

/-- A statement that is written is the one that the plan describes. -/
theorem eq_named_of_written (h : Statement.Resolvable s.catalog q context p)
    {statement : Statement String} {compiled : Compiled}
    (written : s.written p = .ok (some (statement, compiled)))
    : ∃ engine,
        p.engine = some engine
        ∧ statement = Statement.named s.catalog p engine
        ∧ (s.compile statement).result = .ok compiled := by
  cases needed : p.engine with
  | none => simp [Service.written, Plan.needsSql, needed] at written
  | some engine =>
      rw [written_eq h needed, Outcome.bind_eq_ok] at written
      obtain ⟨found, made, same⟩ := written
      cases same
      exact ⟨engine, rfl, rfl, made⟩

/-- The rows of a statement for a lookup are, under the labels that they already have and up to
order, the visible rows that its ids lead to.
-/
theorem Prepares.run_eq (h : s.Prepares q context prepared) (look : q.LooksUp asked)
    (byValue : v.ByValue) (keyed : Keyed (s.catalog.keyName q.source) rows)
    (evaluates : s.Evaluates q context v rows) {executor : Executor}
    (present : s.executor = some executor) (restricted : prepared.plan.ids = some ids)
    {statement : Statement String} {compiled : Compiled}
    (written : prepared.statement = some (statement, compiled))
    : ∃ found,
        (s.run compiled).result = .ok (.ok found)
        ∧ found.map statement.restore = found
        ∧ found.Perm
            ((Cache.soughtRows v s.catalog context q.source rows ids).map
              (s.catalog.projected prepared.plan.granted.selection)) := by
  obtain ⟨found, answered, same⟩ := evaluates executor present _ _ _ h written
  obtain ⟨engine, needed, rfl, _⟩ :=
    eq_named_of_written h.resolvable (h.written.trans (congrArg _ written))
  rw [h.resolvable.evaluate_lookup look engine byValue restricted keyed.present] at same
  refine ⟨found, ?ran, ?labelled, same⟩
  case ran =>
    simp only [run, present, Traced.result_bind, Traced.result_record, Outcome.ok_bind, answered]
    rfl
  case labelled =>
    have plain := (h.resolvable.plainRows look engine).toSelectsColumns
    refine (List.map_congr_left fun row member => ?_).trans (List.map_id _)
    obtain ⟨stored, _, rfl⟩ := List.mem_map.mp (same.mem_iff.mp member)
    refine plain.restore_eq_self ?_
    rw [plain.labels_eq, Entries.keys, Catalog.projected, Statement.named, List.map_map,
      List.map_map]
    rfl

-----------------------------------------------------------------------------------------
-- Rows of a hit
-----------------------------------------------------------------------------------------

/-- The key column by which rows are merged is the key of the table of the query. -/
theorem keyColumn_eq (h : Statement.Resolvable s.catalog q context p)
    (source : s.catalog.table? q.source = some t) {key : String} (single : t.primaryKey = [key])
    : keyColumn p = .ok key := by
  obtain ⟨scope, found, table, _⟩ := h.scope_of_mem h.source_mem
  rw [source, Option.some.injEq] at table
  simp only [keyColumn, h.query_eq, Statement.scope, found, Outcome.ok_bind, ← table, single]
  rfl

/-- The rows of a hit are its visible rows, merged with those fetched for the ids that it leaves
open.
-/
theorem Prepares.completeHit_eq (h : s.Prepares q context prepared) (look : q.LooksUp asked)
    (byValue : v.ByValue) (keyed : Keyed (s.catalog.keyName q.source) rows)
    (evaluates : s.Evaluates q context v rows) {executor : Executor}
    (present : s.executor = some executor) (source : s.catalog.table? q.source = some t)
    {key : String} (single : t.primaryKey = [key]) {hit : CacheHit}
    (complete : prepared.statement = none → hit.fallback = [])
    (restricted : prepared.statement.isSome → prepared.plan.ids = some hit.fallback)
    : ∃ fetched,
        (s.completeHit prepared hit).result
          = (Cache.merged hit.visibleRows fetched prepared.plan.granted.selection key).mapError
              .unwritable
        ∧ fetched.Perm
            ((Cache.soughtRows v s.catalog context q.source rows hit.fallback).map
              (s.catalog.projected prepared.plan.granted.selection)) := by
  have column := keyColumn_eq h.resolvable source single
  cases written : prepared.statement with
  | none =>
      refine ⟨[], ?_, ?_⟩
      · simp only [completeHit, column, written, Traced.result_bind, Traced.result_ofExcept,
          Traced.result_pure, Traced.result_note, Outcome.ok_bind, Outcome.bind_ok]
      · rw [complete written]
        simp [Cache.soughtRows]
  | some both =>
      obtain ⟨statement, compiled⟩ := both
      obtain ⟨found, ran, labelled, same⟩ :=
        h.run_eq look byValue keyed evaluates present (restricted (by simp [written])) written
      refine ⟨found, ?_, same⟩
      simp only [completeHit, column, written, runFallback, ran, labelled, Traced.result_bind,
        Traced.result_ofExcept, Traced.result_pure, Traced.result_note, Outcome.ok_bind,
        Outcome.bind_ok]

-----------------------------------------------------------------------------------------
-- Plans with and without a hit
-----------------------------------------------------------------------------------------

/-- Statements that differ in their conditions are compiled alike if those are written alike. -/
theorem failure?_compile {statement : Statement String} (strategy target : String)
    {conditions : List (Condition (Statement.ColumnName String))}
    (alike
      : ∀ d,
          failure? (conditions.mapM (Sql.condition d))
          = failure? (statement.conditions.mapM (Sql.condition d)))
    : failure? (s.compile { statement with strategy, target, conditions }).result
      = failure? (s.compile statement).result := by
  unfold compile
  cases s.dialects.find (.text statement.engine) with
  | error failure => rfl
  | ok d => exact Compiled.failure?_generate strategy target (alike d)

/-- The database has SQL for the ids of a lookup that are left open where it has some for all of
them, and the same reason for having none.
-/
theorem failure?_written (h : Statement.Resolvable s.catalog q context p) (look : q.LooksUp asked)
    (source : s.catalog.table? q.source = some t) (restricted : p.ids = some asked)
    {engine : String} (needed : p.engine = some engine) {hit : CacheHit}
    (missed : hit.isComplete = false)
    (after : Statement.Resolvable s.catalog q context (afterHit p hit))
    : failure? (s.written (afterHit p hit)) = failure? (s.written p) := by
  obtain ⟨key, single⟩ := h.primaryKey_eq (by simp [restricted]) source
  have addressed : (afterHit p hit).engine = some engine := by simp [afterHit, missed, needed]
  have open' : (afterHit p hit).ids = some hit.fallback := by simp [afterHit, missed]
  let column := s.catalog.columnName ⟨q.source, key, false⟩
  have first : Statement.idsNamed s.catalog p
      = [⟨column, .known .among, .list asked, .ids⟩] := by
    simp [Statement.idsNamed, restricted, h.query_eq, source, single, column]
  have rest : Statement.idsNamed s.catalog (afterHit p hit)
      = [⟨column, .known .among, .list hit.fallback, .ids⟩] := by
    simp [Statement.idsNamed, open', after.query_eq, source, single, column]
  have alike (d : Dialect)
      : failure?
          ((Statement.named s.catalog (afterHit p hit) engine).conditions.mapM (Sql.condition d))
        = failure? ((Statement.named s.catalog p engine).conditions.mapM (Sql.condition d)) := by
    rw [h.lookup_conditions_eq look, after.lookup_conditions_eq look, first, rest]
    exact Sql.failure?_restricted column .ids _ hit.fallback asked
  rw [written_eq after addressed, written_eq h needed]
  exact failure?_bind
    (@failure?_compile s (Statement.named s.catalog p engine) _ _ _ alike) fun _ _ => rfl

/-- A query that is prepared with a plan is prepared with the plan that takes a hit instead, if
that is the one that is made. It needs no statement where the hit is complete.
-/
theorem Prepares.afterHit (h : s.withoutCache.Prepares q context prepared)
    (look : q.LooksUp asked) (source : s.catalog.table? q.source = some t)
    (restricted : prepared.plan.ids = some asked) (written : prepared.statement.isSome)
    {hit : CacheHit}
    (planned
      : (Planning.plan s.catalog s.facilities prepared.plan.granted context
          (q.freshness.getD s.standardFreshness)).result
        = .ok (Planning.afterHit prepared.plan hit))
    : ∃ statement,
        s.Prepares q context ⟨Planning.afterHit prepared.plan hit, statement⟩
        ∧ (statement = none → hit.fallback = [])
        ∧ (statement.isSome → (Planning.afterHit prepared.plan hit).ids = some hit.fallback) := by
  cases complete : hit.isComplete with
  | true =>
      refine ⟨none, ⟨h.valid, h.granted, planned, ?_⟩, fun _ => ?_, by simp⟩
      · simp [Service.written, Plan.needsSql, Planning.afterHit, complete]
      · simpa [CacheHit.isComplete] using complete
  | false =>
      obtain ⟨⟨statement, compiled⟩, both⟩ := Option.isSome_iff_exists.mp written
      have before : s.written prepared.plan = .ok (some (statement, compiled)) :=
        h.written.trans (congrArg _ both)
      obtain ⟨engine, needed, _⟩ := eq_named_of_written h.resolvable before
      have alike := failure?_written h.resolvable look source restricted needed complete
        (Statement.resolvable_of_plan h.valid h.granted planned)
      obtain ⟨other, after⟩ :=
        failure?_eq_none.mp (alike.trans (failure?_eq_none.mpr ⟨_, before⟩))
      refine ⟨other, ⟨h.valid, h.granted, planned, after⟩, ?_, fun _ => ?_⟩
      · rintro rfl
        have needs : (Planning.afterHit prepared.plan hit).engine = some engine := by
          simp [Planning.afterHit, complete, needed]
        rw [written_eq (Statement.resolvable_of_plan h.valid h.granted planned) needs] at after
        obtain ⟨_, _, same⟩ := Outcome.bind_eq_ok.mp after
        cases same
      · simp [Planning.afterHit, complete]

-----------------------------------------------------------------------------------------
-- Lookups with and without a cache
-----------------------------------------------------------------------------------------

/-- The cache of a service mirrors stored rows of the table of a query: the keys of its rows
follow a pattern of simple fields, and what stands there for the ids that are asked for mirrors the
rows.
-/
def Mirrors (s : Service) (q : Query) (context : Context) (rows : List Row) (asked : List Value)
    : Prop :=
  ∀ t cache entry,
    s.catalog.table? q.source = some t
    → s.facilities.cache = some cache
    → s.catalog.cacheOf? t = some entry
    → Template.Simple entry.keyPattern
      ∧ cache.Faithful s.facilities.runtime s.catalog context t entry rows asked

/-- A lookup is made in the table of its query only. -/
theorem tablesOf_eq (h : Statement.Resolvable s.catalog q context p) (look : q.LooksUp asked)
    (source : s.catalog.table? q.source = some t)
    : tablesOf p.granted p.granted.query.tableNames = .ok [t] := by
  obtain ⟨scope, found, table, _⟩ := h.scope_of_mem h.source_mem
  rw [source, Option.some.injEq] at table
  rw [h.granted.query, h.accepted.tableNames_eq, look.joins]
  simp [tablesOf, found, table]

/-- What a lookup in a table is planned with. -/
def setting (s : Service) (q : Query) (context : Context) (p : Plan) (t : Table) : Setting :=
  ⟨s.catalog, s.facilities, p.granted, [t], context, q.freshness.getD s.standardFreshness⟩

/-- The rows of a lookup by ids that takes no hit are, up to order, those that its ids lead to;
they come from a statement that an executor runs.
-/
theorem Prepares.rows_perm (h : s.Prepares q context prepared) (look : q.LooksUp asked)
    (byValue : v.ByValue) (keyed : Keyed (s.catalog.keyName q.source) rows)
    (evaluates : s.Evaluates q context v rows) (restricted : prepared.plan.ids = some ids)
    (alone : prepared.plan.route.hit? = none) {found : List Row}
    (ran : (s.rows prepared).result = .ok found)
    : prepared.statement.isSome
      ∧ (∃ executor, s.executor = some executor)
      ∧ found.Perm
          ((Cache.soughtRows v s.catalog context q.source rows ids).map
            (s.catalog.projected prepared.plan.granted.selection)) := by
  cases written : prepared.statement with
  | none => simp [Service.rows, alone, written] at ran
  | some both =>
      obtain ⟨statement, compiled⟩ := both
      simp only [Service.rows, alone, written, runStatement, Traced.result_bind] at ran
      cases present : s.executor with
      | none =>
          rw [run, present] at ran
          cases ran
      | some executor =>
          obtain ⟨answered, result, labelled, same⟩ :=
            h.run_eq look byValue keyed evaluates present restricted written
          simp only [result, Outcome.ok_bind, Traced.result_bind, Traced.result_note,
            Traced.result_pure, labelled, Except.ok.injEq] at ran
          exact ⟨rfl, ⟨executor, rfl⟩, ran ▸ same⟩

/-- A lookup for which the cache has a hit comes to the rows that the database alone has. -/
theorem Prepares.sameRows_of_hit (h : s.withoutCache.Prepares q context prepared)
    {l : Lookup}
    (inTable
      : InTable (s.setting q context prepared.plan l.table) q asked prepared.plan l.table)
    (home
      : planFor (s.setting q context prepared.plan l.table) (.direct l.table.database)
        = .ok prepared.plan)
    (scalars : ∀ id ∈ asked, id.isCollection = false)
    (keyed : Keyed (s.catalog.keyName q.source) rows)
    (faithful
      : l.cache.Faithful s.facilities.runtime s.catalog context l.table l.entry rows asked)
    (byValue : v.ByValue) (evaluates : s.Evaluates q context v rows)
    (alone : s.withoutCache.Evaluates q context v rows) {keys : List (Value × String)}
    {values : Entries String Value}
    (reads : Reads (s.setting q context prepared.plan l.table) l keys values)
    (through
      : (throughCache (s.setting q context prepared.plan l.table)).result
        = .ok (some (.cached (hitOf s.facilities.runtime.nesting values
            (rowsOf (s.setting q context prepared.plan l.table) l) keys l.table.database))))
    {expected : List Row} (ran : (s.withoutCache.rows prepared).result = .ok expected)
    : ∃ after found,
        s.Prepares q context after
        ∧ (s.rows after).result = .ok found
        ∧ SameRows found expected := by
  obtain ⟨direct, -, restricted⟩ := planFor_direct home
  have restricted : prepared.plan.ids = some asked := by
    rw [restricted (answerable_of_lookup reads.looked).ids, inTable.idList_eq]
  have tables := tablesOf_eq inTable.resolvable inTable.look inTable.source
  have planned := plan_of_hit tables home rfl through
  obtain ⟨key, single⟩ := inTable.primaryKey_eq
  obtain ⟨written, ⟨executor, present⟩, all⟩ :=
    h.rows_perm inTable.look byValue keyed alone restricted (by rw [direct]; rfl) ran
  obtain ⟨statement, after, complete, left⟩ :=
    h.afterHit inTable.look inTable.source restricted written planned
  obtain ⟨fetched, completed, others⟩ :=
    after.completeHit_eq inTable.look byValue keyed evaluates present inTable.source single
      complete left
  obtain ⟨found, merged, same⟩ :=
    inTable.merged_sameRows faithful byValue single scalars keyed reads others
  have result : (s.rows ⟨Planning.afterHit prepared.plan _, statement⟩).result = .ok found :=
    completed.trans (congrArg _ merged)
  exact ⟨_, found, after, result, same.trans_perm all.symm⟩

/-- Where the planner turns to the cache for a query, the pattern spells the keys of some ids. -/
def SpellsKeys (s : Service) (q : Query) (context : Context) (asked : List Value) : Prop :=
  ∀ granted t l,
    (Access.apply s.catalog q context).result = .ok granted
    → s.catalog.table? q.source = some t
    → lookup ⟨s.catalog, s.facilities, granted, [t], context,
        q.freshness.getD s.standardFreshness⟩
      = .ok l
    → Cache.Spells l.entry.keyPattern context.values (Value.distinct asked)

/-- A lookup by ids, none of which is a collection, in a table whose rows have keys of their own and
are mirrored by the cache of the service. Statements are answered by the reference evaluation, with
the cache and without it.
-/
structure MirroredLookup (s : Service) (q : Query) (context : Context) (v : Conventions)
    (rows : List Row) (asked : List Value)
    : Prop where
  look : q.LooksUp asked
  scalars : ∀ id ∈ asked, id.isCollection = false
  keyed : Keyed (s.catalog.keyName q.source) rows
  mirrors : s.Mirrors q context rows asked
  byValue : v.ByValue
  evaluates : s.Evaluates q context v rows
  evaluatesAlone : s.withoutCache.Evaluates q context v rows

namespace MirroredLookup

variable (h : s.MirroredLookup q context v rows asked)
include h

theorem inTable (alone : s.withoutCache.Prepares q context prepared)
    (source : s.catalog.table? q.source = some t)
    : InTable (s.setting q context prepared.plan t) q asked prepared.plan t :=
  ⟨h.look, alone.resolvable, rfl, source, rfl⟩

/-- What the planner looks up follows a simple pattern, and mirrors the rows. -/
theorem simple_and_faithful (alone : s.withoutCache.Prepares q context prepared)
    (source : s.catalog.table? q.source = some t) {l : Lookup}
    (looked : lookup (s.setting q context prepared.plan t) = .ok l)
    : Template.Simple l.entry.keyPattern
      ∧ l.cache.Faithful s.facilities.runtime s.catalog context t l.entry rows asked := by
  have answerable := answerable_of_lookup looked
  have listed := answerable.entry
  rw [(h.inTable alone source).table_eq looked] at listed
  exact h.mirrors t l.cache l.entry source answerable.cache listed

/-- Keys of a lookup can be made exactly where the pattern spells them. -/
theorem keyable_iff (alone : s.withoutCache.Prepares q context prepared)
    (source : s.catalog.table? q.source = some t) {l : Lookup}
    (looked : lookup (s.setting q context prepared.plan t) = .ok l)
    : Cache.Keyable s.facilities.runtime.objects l.entry.keyPattern context.values
        (Value.distinct prepared.plan.granted.query.idList)
      ↔ Cache.Spells l.entry.keyPattern context.values (Value.distinct asked) := by
  have ids : prepared.plan.granted.query.idList = asked := (h.inTable alone source).idList_eq
  rw [ids]
  exact Cache.keyable_iff_spells (h.simple_and_faithful alone source looked).1 fun id member =>
    h.scalars id (Value.mem_of_mem_distinct member)

/-- Keys are spelled where a lookup that is prepared without the cache is prepared with it. -/
theorem spellsKeys_of_prepares (alone : s.withoutCache.Prepares q context prepared)
    {after : Prepared} (prepares : s.Prepares q context after)
    : s.SpellsKeys q context asked := by
  intro granted t l allowed source looked
  cases alone.granted.symm.trans allowed
  have planned := prepares.planned
  have same : after.plan.granted = prepared.plan.granted :=
    Except.ok.inj (prepares.granted.symm.trans alone.granted)
  rw [same] at planned
  obtain ⟨found, through⟩ :=
    exists_throughCache_of_plan (tablesOf_eq alone.resolvable h.look source) planned
  exact (h.keyable_iff alone source looked).mp (keyable_of_throughCache looked through)

/-- A lookup whose keys are spelled comes to the rows that it comes to without the cache. -/
theorem sameRows_of_spellsKeys (alone : s.withoutCache.Prepares q context prepared)
    (spells : s.SpellsKeys q context asked) {expected : List Row}
    (ran : (s.withoutCache.rows prepared).result = .ok expected)
    : ∃ after found,
        s.Prepares q context after
        ∧ (s.rows after).result = .ok found
        ∧ SameRows found expected := by
  have resolvable : Statement.Resolvable s.catalog q context prepared.plan := alone.resolvable
  obtain ⟨scope, _, source, _⟩ := resolvable.scope_of_mem resolvable.source_mem
  generalize scope.table = t at source
  have inTable := h.inTable alone source
  have tables := tablesOf_eq resolvable h.look source
  have home : planFor (s.setting q context prepared.plan t) (.direct t.database)
      = .ok prepared.plan :=
    plan_withoutCache tables alone.planned
  have keyable (l : Lookup) (looked : lookup (s.setting q context prepared.plan t) = .ok l) :=
    (h.keyable_iff alone source looked).mpr (spells _ t l alone.granted source looked)
  -- The cache is either passed over, so that nothing changes, or it has a hit.
  rcases throughCache_cases keyable fun l keys values reads => by
        have faithful := (h.simple_and_faithful alone source reads.looked).2
        have table := inTable.table_eq reads.looked
        subst table
        exact inTable.sift_eq faithful h.byValue reads
    with none | ⟨l, keys, values, reads, through⟩
  · have planned := plan_of_none tables home none
    exact ⟨prepared, expected, ⟨alone.valid, alone.granted, planned, alone.written⟩, ran,
      .of_perm (.refl _)⟩
  · have table := inTable.table_eq reads.looked
    subst table
    exact alone.sameRows_of_hit inTable home h.scalars h.keyed
      (h.simple_and_faithful alone source reads.looked).2 h.byValue h.evaluates h.evaluatesAlone
      reads through ran

end MirroredLookup

/-- A lookup by ids in one table gives the same rows, up to order, with a cache that mirrors the
stored rows as it gives without any cache, exactly unless the planner turns to the cache with keys
that cannot be spelled. The cache may give all rows, some or none of them, and fail; its rows may be
hidden or lack columns of the row rules.
-/
theorem execute_cached_iff (h : s.MirroredLookup q context v rows asked) {past : List Happening}
    {answer : Answer}
    (executed : (s.withoutCache.execute q context .never past).result = .ok answer)
    : (∃ cached found expected,
        (s.execute q context .never past).result = .ok cached
        ∧ cached.rows = some found
        ∧ answer.rows = some expected
        ∧ SameRows found expected)
      ↔ s.SpellsKeys q context asked := by
  obtain ⟨alone, expected, ran, answered⟩ := (execute_eq_ok past).mp executed
  constructor
  · rintro ⟨cached, _, _, executed', _⟩
    exact h.spellsKeys_of_prepares alone ((execute_eq_ok past).mp executed').1
  · intro spells
    obtain ⟨after, found, prepares, result, same⟩ := h.sameRows_of_spellsKeys alone spells ran
    exact ⟨⟨after, some found⟩, found, expected,
      (execute_eq_ok past).mpr ⟨prepares, found, result, rfl⟩, rfl, answered, same⟩

end Polystore.Service

-----------------------------------------------------------------------------------------
-- A lookup of three users
-----------------------------------------------------------------------------------------

namespace Polystore.Sample

open Semantics

def lookup : Query where
  source := "users"
  columns := ["id", "name"]
  filters := []
  joins := []
  orderBy := []
  groupBy := []
  aggregations := []
  having := []
  limit := none
  offset := none
  byIds := some [.int 1, .int 2, .int 3]
  freshness := none
  mode := .rows

def storedUser (id : Int) (name tenant : String) : Row :=
  [("user_id", .int id), ("full_name", .text name), ("tenant_id", .text tenant)]

def cachedUser (id : Int) (name tenant : String) : Row :=
  [("id", .int id), ("name", .text name), ("tenant", .text tenant)]

/-- Users of two tenants. -/
def people : List Row :=
  [storedUser 1 "Ann" "acme", storedUser 2 "Bob" "other", storedUser 3 "Cid" "acme"]

/-- The first of them and the one of the other tenant are cached. -/
def store : Cache.Store := [
  ("users:1", .object (cachedUser 1 "Ann" "acme")),
  ("users:2", .object (cachedUser 2 "Bob" "other"))]

/-- What a clerk of the one tenant sees. -/
def visiblePeople : List Row :=
  [[("id", .int 1), ("name", .text "Ann")], [("id", .int 3), ("name", .text "Cid")]]

/-- Answers with the visible users whose ids are asked for. -/
def executor : Executor := fun call =>
  .ok (visiblePeople.filter fun row =>
    call.params.any fun ids => (ids.elements?.getD []).any (·.equals (row.cell "id")))

def service : Service :=
  ⟨catalog, ⟨false, some store.cache, true, runtime⟩, .hours, .standard, some executor⟩

theorem conventions_byValue : conventions.ByValue := ⟨fun _ _ => rfl, fun _ _ => rfl⟩

/-- What is written for a query, if anything is. -/
def writtenFor (s : Service) (q : Query) (context : Context)
    : Option (Statement String × Compiled) :=
  (s.stages q context .never []).result.toOption.bind (·.statement)

/-- An executor that evaluates what is written evaluates the query. -/
theorem evaluates_of_writtenFor {s : Service} {q : Query} {context : Context}
    (present : s.executor = some executor)
    (answered
      : (writtenFor s q context).map (fun e => executor ⟨e.2.sql, e.2.params, e.2.target⟩)
        = (writtenFor s q context).map fun e => .ok (evaluate conventions e.1 fun _ => people))
    : s.Evaluates q context conventions people := by
  intro other same prepared statement compiled prepares written
  rw [present, Option.some.injEq] at same
  subst same
  have stages := (Service.stages_eq_ok []).mpr prepares
  simp only [writtenFor, stages, Except.toOption, Option.bind_some, written, Option.map_some,
    Option.some.injEq] at answered
  exact ⟨_, answered, .refl _⟩

theorem people_keyed : Keyed (catalog.keyName lookup.source) people := by
  have name : catalog.keyName lookup.source = "user_id" := rfl
  rw [name]
  constructor
  case present =>
    simp only [people, List.mem_cons, List.not_mem_nil, or_false, forall_eq_or_imp, forall_eq]
    exact ⟨rfl, rfl, rfl⟩
  case apart =>
    simp only [people, List.pairwise_cons, List.mem_cons, List.not_mem_nil, or_false,
      forall_eq_or_imp, forall_eq]
    exact ⟨⟨rfl, rfl⟩, rfl, nofun, .nil⟩

/-- A cached user stands for the stored one of the same id, name and tenant. -/
theorem cachedUser_mirrors {id : Int} {name tenant : String} {rows : List Row}
    (member : storedUser id name tenant ∈ rows)
    : Cache.Mirrors catalog context users users.columnNames rows (.int id)
        (cachedUser id name tenant) := by
  have self {x : Value} (plain : x.isCollection = false) (defined : x.isUndefined = false)
      : x.equals x = true :=
    Value.equals_iff.mpr ⟨defined, Value.same_self plain⟩
  refine ⟨fun _ => by simp [users, Table.columnNames, cachedUser, Entries.has], _, member,
    self rfl rfl, ?_⟩
  intro column listed _
  simp only [users, List.mem_cons, List.not_mem_nil, or_false] at listed
  rcases listed with rfl | rfl | rfl
  all_goals exact ⟨self rfl rfl, self rfl rfl⟩

theorem idField_plain : Template.Field.Plain ⟨"id".toList, none, []⟩ :=
  ⟨⟨rfl, rfl, by simp [Template.beginsStep]⟩, by simp, by cbv⟩

theorem users_pieces
    : Template.pieces "users:\x7bid\x7d".toList
      = .ok [.text "users:".toList, .field ⟨"id".toList, none, []⟩] :=
  rfl

theorem users_simple : Template.Simple "users:\x7bid\x7d" := by
  refine ⟨_, users_pieces, fun f member => ?_⟩
  obtain rfl : f = ⟨"id".toList, none, []⟩ := by simpa using member
  exact idField_plain.toSimple

/-- What is looked up in the sample catalog follows its only pattern. -/
theorem keyPattern_eq {granted : ScopedQuery} {t : Table} {l : Planning.Lookup}
    (looked
      : Planning.lookup ⟨catalog, service.facilities, granted, [t], context, .hours⟩ = .ok l)
    : l.entry.keyPattern = "users:\x7bid\x7d" := by
  have listed : l.entry ∈ catalog.document.caches :=
    List.mem_reverse.mp (List.mem_of_find?_eq_some (Planning.answerable_of_lookup looked).entry)
  rw [List.mem_singleton.mp listed]

theorem service_mirrors : service.Mirrors lookup context people [.int 1, .int 2, .int 3] := by
  intro t cache entry found present listed
  cases found
  cases present
  cases listed
  refine ⟨users_simple, ?_⟩
  intro keys values keyed answered e member value listed
  have made
      : Cache.keys .none "users:\x7bid\x7d" context.values
          (Value.distinct [.int 1, .int 2, .int 3])
        = .ok [(.int 1, "users:1"), (.int 2, "users:2"), (.int 3, "users:3")] := by
    cbv
  cases made.symm.trans keyed
  cases answered
  have listed := Entries.lookup_of_lookup_among listed
  simp only [List.mem_cons, List.not_mem_nil, or_false] at member
  rcases member with rfl | rfl | rfl
  · cases listed
    exact ⟨_, rfl, fun row held => Option.some.inj held ▸ cachedUser_mirrors (by simp [people])⟩
  · cases listed
    exact ⟨_, rfl, fun row held => Option.some.inj held ▸ cachedUser_mirrors (by simp [people])⟩
  · cases listed

theorem lookup_mirrored
    : service.MirroredLookup lookup context conventions people [.int 1, .int 2, .int 3] where
  look := ⟨rfl, rfl, rfl, rfl, rfl, rfl, rfl, rfl, rfl⟩
  scalars := by simp [Value.isCollection]
  keyed := people_keyed
  mirrors := service_mirrors
  byValue := conventions_byValue
  evaluates := evaluates_of_writtenFor rfl (by cbv)
  evaluatesAlone := evaluates_of_writtenFor rfl (by cbv)

theorem lookup_spellsKeys
    : service.SpellsKeys lookup context [.int 1, .int 2, .int 3] := by
  intro granted t l _ _ looked
  refine ⟨_, by rw [keyPattern_eq looked]; exact users_pieces, .inr fun id member => ?_⟩
  simp only [List.forall_mem_cons, Template.Piece.Fills, true_and, List.not_mem_nil,
    false_imp_iff, implies_true, and_true]
  have among := Value.mem_of_mem_distinct member
  simp only [List.mem_cons, List.not_mem_nil, or_false] at among
  rcases among with rfl | rfl | rfl
  all_goals exact ⟨idField_plain, by cbv⟩

/-- One of the users is served by the cache, one is hidden there, and one is left to the database;
together they are those that the database alone shows.
-/
theorem lookup_sameRows
    : ∃ alone cached found,
        (service.withoutCache.execute lookup context .never []).result = .ok alone
        ∧ alone.rows = some visiblePeople
        ∧ (service.execute lookup context .never []).result = .ok cached
        ∧ cached.prepared.plan.served = [.int 1, .int 2]
        ∧ cached.prepared.plan.fallback = [.int 3]
        ∧ cached.rows = some found
        ∧ SameRows found visiblePeople := by
  obtain ⟨alone, executed, rows⟩
      : ∃ alone,
          (service.withoutCache.execute lookup context .never []).result = .ok alone
          ∧ alone.rows = some visiblePeople := by
    refine ⟨_, rfl, ?_⟩
    rfl
  obtain ⟨cached, found, expected, executed', shown, answered, same⟩ :=
    (Service.execute_cached_iff lookup_mirrored executed).mpr lookup_spellsKeys
  have parts
      : (service.stages lookup context .never []).result.map
          (fun prepared => (prepared.plan.served, prepared.plan.fallback))
        = .ok ([.int 1, .int 2], [.int 3]) := by
    cbv
  have stages := (Service.stages_eq_ok []).mpr ((Service.execute_eq_ok []).mp executed').1
  rw [stages, Except.map, Except.ok.injEq, Prod.mk.injEq] at parts
  rw [answered, Option.some.injEq] at rows
  subst rows
  exact ⟨alone, cached, found, executed, answered, executed', parts.1, parts.2, shown, same⟩

-----------------------------------------------------------------------------------------
-- Lookups whose keys cannot be spelled
-----------------------------------------------------------------------------------------

/-- The small document with another pattern for the keys of cached users. -/
def patternDocument (pattern : String) : Document :=
  { document with caches := [⟨"u", pattern, none, none⟩] }

theorem patternDocument_intact (pattern : String) : (patternDocument pattern).Intact :=
  document_intact

/-- A service that has no users, neither stored nor cached. -/
def patternService (pattern : String) : Service :=
  ⟨⟨patternDocument pattern, patternDocument_intact pattern⟩,
    ⟨false, some (Cache.Store.cache []), true, runtime⟩, .hours, .standard, some fun _ => .ok []⟩

def lookupOf (id : Value) : Query := { lookup with byIds := some [id] }

/-- A context with a value whose name is a number. -/
def numberedContext : Context := { context with values := ("0", .text "a") :: context.values }

/-- An id of one digit more than can be written. -/
def longId : Value := .int (10 ^ Json.digitLimit : Nat)

variable {pattern : String} {id : Value}

/-- An executor without rows evaluates lookups among none. -/
theorem evaluates_nothing {s : Service} {q : Query} {context : Context} {asked : List Value}
    (look : q.LooksUp asked) (some : asked ≠ []) (silent : s.executor = .some fun _ => .ok [])
    : s.Evaluates q context conventions [] := by
  intro executor present prepared statement compiled prepares written
  cases silent.symm.trans present
  obtain ⟨engine, needed, rfl, _⟩ :=
    Service.eq_named_of_written prepares.resolvable (prepares.written.trans (congrArg _ written))
  have idList : prepared.plan.granted.query.idList = asked := by
    rw [prepares.resolvable.granted.query, Query.idList, look.byIds, Option.getD_some]
  obtain ⟨ids, restricted⟩ := Option.isSome_iff_exists.mp
    (prepares.resolvable.planned.asked (by rw [Plan.needsSql, needed]; rfl)
      (idList ▸ some))
  rw [prepares.resolvable.evaluate_lookup look engine conventions_byValue restricted
    (by simp)]
  exact ⟨[], rfl, .refl _⟩

theorem lookupOf_looksUp (id : Value) : (lookupOf id).LooksUp [id] :=
  ⟨rfl, rfl, rfl, rfl, rfl, rfl, rfl, rfl, rfl⟩

/-- An empty cache mirrors that there are no users. -/
theorem lookupOf_mirrored (simple : Template.Simple pattern) (scalar : id.isCollection = false)
    : (patternService pattern).MirroredLookup (lookupOf id) numberedContext conventions []
        [id] where
  look := lookupOf_looksUp id
  scalars := by simpa using scalar
  keyed := ⟨nofun, .nil⟩
  mirrors := by
    intro t cache entry found present listed
    cases found
    cases present
    cases listed
    refine ⟨simple, fun keys values _ answered e _ value held => ?_⟩
    cases answered
    have none : Cache.Store.find [] (keys.map Prod.snd) = [] := by
      simp [Cache.Store.find, Entries.among]
    rw [none] at held
    cases held
  byValue := conventions_byValue
  evaluates := evaluates_nothing (lookupOf_looksUp id) (List.cons_ne_nil _ _) rfl
  evaluatesAlone := evaluates_nothing (lookupOf_looksUp id) (List.cons_ne_nil _ _) rfl

/-- Without the cache a lookup comes to no users. -/
theorem lookupOf_alone (pattern : String) (id : Value)
    : ∃ answer,
        ((patternService pattern).withoutCache.execute (lookupOf id) numberedContext .never
          []).result
          = .ok answer
        ∧ answer.rows = some [] :=
  ⟨_, rfl, rfl⟩

/-- With the cache a lookup comes to nothing where its key cannot be spelled. -/
theorem lookupOf_refused (simple : Template.Simple pattern) (scalar : id.isCollection = false)
    (unspelled : ¬ Cache.Spells pattern numberedContext.values (Value.distinct [id]))
    : ∀ answer,
        ((patternService pattern).execute (lookupOf id) numberedContext .never []).result
        ≠ .ok answer := by
  intro answer executed
  obtain ⟨alone, withoutCache, _⟩ := lookupOf_alone pattern id
  obtain ⟨before, _⟩ := (Service.execute_eq_ok []).mp withoutCache
  obtain ⟨after, _⟩ := (Service.execute_eq_ok []).mp executed
  have spells := (lookupOf_mirrored simple scalar).spellsKeys_of_prepares before after
  have asked
      : ((Access.apply (patternService pattern).catalog (lookupOf id) numberedContext).result.map
          fun granted =>
            (Planning.lookup ⟨(patternService pattern).catalog, (patternService pattern).facilities,
              granted, [users], numberedContext, .hours⟩).map (·.entry.keyPattern))
        = .ok (.ok pattern) := by
    rfl
  obtain ⟨granted, allowed, asked⟩ := Outcome.map_eq_ok.mp asked
  obtain ⟨l, looked, is⟩ := Outcome.map_eq_ok.mp asked
  subst is
  exact unspelled (spells granted users l allowed rfl looked)

theorem longId_unwritable : longId.isWritable = false := by
  rw [← Bool.not_eq_true, longId, Value.isWritable, Value.fits_iff, Int.natAbs_natCast]
  exact lt_irrefl _

theorem longId_unspelled
    : ¬ Cache.Spells "users:\x7bid\x7d" numberedContext.values (Value.distinct [longId]) := by
  rintro ⟨found, formed, lacks | fills⟩
  all_goals cases users_pieces.symm.trans formed
  · obtain ⟨name, listed, other, _⟩ := lacks
    have is : "id" = name := by simpa [Template.Piece.name?] using listed
    exact other is.symm
  · have written : longId.isWritable = true :=
      (fills longId (.head _) _ (.tail _ (.head _))).2
    exact Bool.false_ne_true (longId_unwritable.symm.trans written)

/-- A pattern with a field whose name is a number. -/
def numberedPattern : String := "users:\x7b0\x7d:\x7bid\x7d"

theorem numberedPattern_pieces
    : Template.pieces numberedPattern.toList
      = .ok [
        .text "users:".toList, .field ⟨"0".toList, none, []⟩, .text ":".toList,
        .field ⟨"id".toList, none, []⟩] :=
  rfl

theorem numberedPattern_simple : Template.Simple numberedPattern := by
  refine ⟨_, numberedPattern_pieces, fun f member => ?_⟩
  obtain rfl | rfl : f = ⟨"0".toList, none, []⟩ ∨ f = ⟨"id".toList, none, []⟩ := by
    simpa using member
  · exact ⟨rfl, rfl, by simp [Template.beginsStep]⟩
  · exact idField_plain.toSimple

/-- The number is taken for a position, although there is a value under it. -/
theorem numberedPattern_unspelled
    : ¬ Cache.Spells numberedPattern numberedContext.values (Value.distinct [.int 1]) := by
  rintro ⟨found, formed, lacks | fills⟩
  all_goals cases numberedPattern_pieces.symm.trans formed
  · obtain ⟨name, listed, other, missing⟩ := lacks
    obtain rfl | rfl : "0" = name ∨ "id" = name := by
      simpa [Template.Piece.name?] using listed
    · cases missing
    · exact other rfl
  · have plain := (fills (.int 1) (.head _) _ (.tail _ (.head _))).1
    cases plain.noPosition

/-- A field whose name is a number, and an id of too many digits, keep lookups from being answered
that are answered without the cache.
-/
theorem lookups_refused
    : (∃ answer,
        (patternService numberedPattern).MirroredLookup (lookupOf (.int 1)) numberedContext
          conventions [] [.int 1]
        ∧ ((patternService numberedPattern).withoutCache.execute (lookupOf (.int 1))
            numberedContext .never []).result
          = .ok answer
        ∧ answer.rows = some []
        ∧ ∀ cached,
            ((patternService numberedPattern).execute (lookupOf (.int 1)) numberedContext .never
              []).result
            ≠ .ok cached)
      ∧ ∃ answer,
          (patternService "users:\x7bid\x7d").MirroredLookup (lookupOf longId) numberedContext
            conventions [] [longId]
          ∧ ((patternService "users:\x7bid\x7d").withoutCache.execute (lookupOf longId)
              numberedContext .never []).result
            = .ok answer
          ∧ answer.rows = some []
          ∧ ∀ cached,
              ((patternService "users:\x7bid\x7d").execute (lookupOf longId) numberedContext .never
                []).result
              ≠ .ok cached := by
  constructor
  · obtain ⟨answer, executed, rows⟩ := lookupOf_alone numberedPattern (.int 1)
    exact ⟨answer, lookupOf_mirrored numberedPattern_simple rfl, executed, rows,
      lookupOf_refused numberedPattern_simple rfl numberedPattern_unspelled⟩
  · obtain ⟨answer, executed, rows⟩ := lookupOf_alone "users:\x7bid\x7d" longId
    exact ⟨answer, lookupOf_mirrored users_simple rfl, executed, rows,
      lookupOf_refused users_simple rfl longId_unspelled⟩

end Polystore.Sample
