import Polystore.Proofs.Access.RowRules
import Polystore.Proofs.Planning.CacheReads
import Polystore.Proofs.Service.CachedLookups
import Polystore.Proofs.Statement.ColumnAccess

/-! What a role gets through the cache, whatever the cache holds. Each row that comes from there
was found under the key of an id that the query asks for, and complies with the row rules of the
role; and no row, cached or fetched, has anything but the selected columns, which the role may
read.
-/

namespace Polystore

-----------------------------------------------------------------------------------------
-- Rows that are merged
-----------------------------------------------------------------------------------------

namespace Cache

/-- Merged rows are the cached rows and some of the fetched ones, each cut to the selection. -/
theorem exists_merge_eq (cached fetched : List Row) (selection : List ColumnRef) (key : String)
    : ∃ kept : List Row,
        merge cached fetched selection key
          = cached.map (projectCached selection) ++ kept.map (projectFetched selection)
        ∧ ∀ row ∈ kept, row ∈ fetched :=
  ⟨_, rfl, fun _ member => (List.mem_filter.mp member).1⟩

/-- A row that is cut to a selection has the labels of the selection, where these are apart. -/
theorem keys_of_selection {selection : List ColumnRef}
    (distinct : (selection.map (·.label)).Nodup) (value : ColumnRef → Value)
    : Entries.keys (Entries.ofList (selection.map fun ref => (ref.label, value ref)))
      = selection.map (·.label) := by
  rw [ofList_labelled distinct, Entries.keys, List.map_map]
  rfl

/-- Every merged row has the labels of the selection. -/
theorem keys_of_mem_merge {cached fetched : List Row} {selection : List ColumnRef} {key : String}
    (distinct : (selection.map (·.label)).Nodup) {row : Row}
    (member : row ∈ merge cached fetched selection key)
    : Entries.keys row = selection.map (·.label) := by
  obtain ⟨kept, merged, _⟩ := exists_merge_eq cached fetched selection key
  rw [merged] at member
  rcases List.mem_append.mp member with member | member
  · obtain ⟨_, _, rfl⟩ := List.mem_map.mp member
    exact keys_of_selection distinct _
  · obtain ⟨_, _, rfl⟩ := List.mem_map.mp member
    exact keys_of_selection distinct _

end Cache

-----------------------------------------------------------------------------------------
-- Queries that the cache answers
-----------------------------------------------------------------------------------------

namespace Planning

variable {c : Catalog} {q : Query} {context : Context} {granted : ScopedQuery}

/-- A lookup that the cache may answer is in the one table of the query, whose scope holds the
conditions by which cached rows are checked.
-/
theorem scope_of_lookup (accepted : Validation.Accepted c q)
    (allowed : Access.Granted c q context granted) {s : Setting} {l : Lookup}
    (looked : lookup s = .ok l) (same : s.granted = granted)
    (known : tablesOf granted granted.query.tableNames = .ok s.tables)
    : ∃ scope rule,
        q.joins = []
        ∧ granted.scopes = [(q.source, scope)]
        ∧ Access.Scopes c context q.source rule scope
        ∧ l.table = scope.table
        ∧ rowsOf s l = scope.rows := by
  rw [(answerable_of_lookup looked).tables] at known
  have tables := tablesOf_eq_ok known
  rw [allowed.query, accepted.tableNames_eq] at tables
  cases joins : q.joins with
  | cons j rest =>
      rw [joins] at tables
      cases tables with
      | cons _ later => cases later
  | nil =>
      obtain ⟨scope, rule, only, rights⟩ := allowed.scopes_eq accepted joins
      rw [joins, only] at tables
      have table : l.table = scope.table := by
        cases tables with
        | cons head _ =>
            obtain ⟨other, found, is⟩ := head
            rw [List.lookup_cons_self, Option.some.injEq] at found
            rw [found, is]
      refine ⟨scope, rule, rfl, only, rights, table, ?_⟩
      rw [rowsOf, same, only, table, (Catalog.table?_eq_some rights.table).1,
        List.lookup_cons_self, Option.map_some, Option.getD_some]

end Planning

namespace Service

open Planning

variable {s : Service} {q : Query} {context : Context} {prepared : Prepared} {t : Table}

-----------------------------------------------------------------------------------------
-- Where rows come from
-----------------------------------------------------------------------------------------

/-- A row that the cache of a service has under the key of an id that a query asks for. -/
def FoundInCache (s : Service) (q : Query) (context : Context) (t : Table) (row : Row) : Prop :=
  ∃ cache entry id key keys values,
    s.facilities.cache = some cache
    ∧ s.catalog.cacheOf? t = some entry
    ∧ id ∈ q.idList
    ∧ Cache.key s.facilities.runtime.objects entry.keyPattern id context.values = .ok key
    ∧ key ∈ keys
    ∧ cache.read keys = .ok values
    ∧ Cache.row? s.facilities.runtime.nesting ((values.lookup key).getD .null) = .ok (some row)

/-- A row that the executor gives for the statement of a prepared query, under its labels. -/
def FetchedFor (s : Service) (prepared : Prepared) (row : Row) : Prop :=
  ∃ statement compiled executor found given,
    prepared.statement = some (statement, compiled)
    ∧ s.executor = some executor
    ∧ executor ⟨compiled.sql, compiled.params, compiled.target⟩ = .ok found
    ∧ given ∈ found
    ∧ row = statement.restore given

/-- What is run for a statement is what the executor says of it. -/
theorem run_eq_ok {compiled : Compiled} {answer : Except Outage (List Row)}
    (h : (s.run compiled).result = .ok answer)
    : ∃ executor,
        s.executor = some executor
        ∧ executor ⟨compiled.sql, compiled.params, compiled.target⟩ = answer := by
  unfold run at h
  cases present : s.executor with
  | none => simp [present] at h
  | some executor =>
      simp only [present, Traced.result_bind, Traced.result_record, Outcome.ok_bind,
        Traced.result_pure, Except.ok.injEq] at h
      exact ⟨executor, rfl, h⟩

/-- The rows of a hit are its visible rows, merged with rows that are fetched. -/
theorem completeHit_eq_ok {hit : CacheHit} {rows : List Row}
    (h : (s.completeHit prepared hit).result = .ok rows)
    : ∃ key, ∃ fetched : List Row,
        rows = Cache.merge hit.visibleRows fetched prepared.plan.granted.selection key
        ∧ ∀ row ∈ fetched, s.FetchedFor prepared row := by
  cases written : prepared.statement with
  | none =>
      simp only [completeHit, written, Traced.result_bind, Traced.result_ofExcept,
        Traced.result_note, Traced.result_pure, Outcome.bind_eq_ok, Outcome.ok_bind,
        Outcome.bind_ok, Outcome.mapError_eq_ok, Cache.merged_eq_ok] at h
      obtain ⟨key, _, _, rfl⟩ := h
      exact ⟨key, [], rfl, by simp⟩
  | some both =>
      obtain ⟨statement, compiled⟩ := both
      simp only [completeHit, written, runFallback, Traced.result_bind, Traced.result_ofExcept,
        Traced.result_note, Traced.result_pure, Outcome.bind_eq_ok, Outcome.ok_bind,
        Outcome.bind_ok, Outcome.mapError_eq_ok, Cache.merged_eq_ok] at h
      obtain ⟨key, _, fetched, ⟨answered, ran, labelled⟩, _, rfl⟩ := h
      obtain ⟨executor, present, answers⟩ := run_eq_ok ran
      refine ⟨key, fetched, rfl, fun row member => ?_⟩
      cases answered with
      | error o => simp at labelled
      | ok found =>
          cases labelled
          obtain ⟨given, listed, rfl⟩ := List.mem_map.mp member
          exact ⟨statement, compiled, executor, found, given, written, present, answers, listed,
            rfl⟩

-----------------------------------------------------------------------------------------
-- Rows within the rights of a role
-----------------------------------------------------------------------------------------

/-- Rows of a hit that keep to a rule for its table. They are cached rows that were found under
the keys of ids and comply with the row rules, and rows that were fetched, all of them cut to the
selection, which holds nothing but columns that the rule admits.
-/
structure WithinRights (s : Service) (q : Query) (context : Context) (prepared : Prepared)
    (t : Table) (rule : TableRule) (rows : List Row)
    : Prop where
  origins
    : ∃ cached fetched : List Row,
        rows
          = cached.map (Cache.projectCached prepared.plan.granted.selection)
            ++ fetched.map (Cache.projectFetched prepared.plan.granted.selection)
        ∧ (∀ row ∈ cached,
            s.FoundInCache q context t row ∧ row.Complies context rule.rows)
        ∧ ∀ row ∈ fetched, s.FetchedFor prepared row
  labels
    : ∀ row ∈ rows,
        Entries.keys row = prepared.plan.granted.selection.map (·.label)
  columns
    : ∀ ref ∈ prepared.plan.granted.selection,
        ref.table = q.source
        ∧ rule.allowed.Admits ref.column
        ∧ ∃ column, t.column? ref.column = some column

/-- A hit that a query is prepared with is that of what the cache answered for its ids, in the one
table of the query.
-/
theorem Prepares.reads_of_hit (h : s.Prepares q context prepared) {hit : CacheHit}
    (taken : prepared.plan.route.hit? = some hit)
    : ∃ tables l keys values scope rule,
        Reads ⟨s.catalog, s.facilities, prepared.plan.granted, tables, context,
          q.freshness.getD s.standardFreshness⟩ l keys values
        ∧ hit = hitOf s.facilities.runtime.nesting values scope.rows keys l.table.database
        ∧ q.joins = []
        ∧ prepared.plan.granted.scopes = [(q.source, scope)]
        ∧ Access.Scopes s.catalog context q.source rule scope
        ∧ l.table = scope.table := by
  obtain ⟨tables, known, through⟩ := throughCache_of_hit h.planned taken
  obtain ⟨l, keys, values, reads, is⟩ := hit_of_throughCache through
  obtain ⟨scope, rule, joins, only, rights, table, conditions⟩ :=
    scope_of_lookup (Validation.accepted_of_issues h.valid) (Access.granted_of_apply h.granted)
      reads.looked rfl known
  rw [conditions, Route.cached.injEq] at is
  exact ⟨tables, l, keys, values, scope, rule, reads, is, joins, only, rights, table⟩

/-- The visible rows of a hit were found in the cache and comply with the row rules. -/
theorem Prepares.of_mem_visibleRows (h : s.Prepares q context prepared) {hit : CacheHit}
    (taken : prepared.plan.route.hit? = some hit)
    : ∃ scope rule,
        q.joins = []
        ∧ prepared.plan.granted.scopes = [(q.source, scope)]
        ∧ Access.Scopes s.catalog context q.source rule scope
        ∧ ∀ row ∈ hit.visibleRows,
            s.FoundInCache q context scope.table row ∧ row.Complies context rule.rows := by
  obtain ⟨tables, l, keys, values, scope, rule, reads, rfl, joins, only, rights, table⟩ :=
    h.reads_of_hit taken
  have answerable := answerable_of_lookup reads.looked
  refine ⟨scope, rule, joins, only, rights, fun row visible => ?_⟩
  rw [reads.apart.2.visibleRows_hitOf] at visible
  obtain ⟨⟨id, key⟩, listed, shown⟩ := List.mem_filterMap.mp visible
  obtain ⟨isHeld, meets⟩ := shownRow_eq_some.mp shown
  obtain ⟨held, covers⟩ := heldRow_eq_some.mp isHeld
  rw [rights.rows] at covers meets
  obtain ⟨wanted, made⟩ := Entries.of_mem_of_forall₂
    (R := fun id key =>
      Cache.key s.facilities.runtime.objects l.entry.keyPattern id context.values = .ok key)
    (Cache.keys_eq_ok reads.keyed) listed
  have asked : id ∈ q.idList :=
    (Access.granted_of_apply h.granted).query ▸ Value.mem_of_mem_distinct wanted
  have entry := answerable.entry
  rw [table] at entry
  exact ⟨⟨l.cache, l.entry, id, key, _, values, answerable.cache, entry, asked, made,
    List.mem_map_of_mem listed, reads.answered, held⟩, Row.complies_of_meets covers meets⟩

/-- Whatever a cache holds, a query that it answers comes to rows within the rights of the role:
the role has a rule for the table, no row of the cache is shown against its row rules, and no row
has a column that it does not admit.
-/
theorem execute_within_rights {cancellation : Cancellation} {past : List Happening}
    {answer : Answer} (executed : (s.execute q context cancellation past).result = .ok answer)
    {hit : CacheHit} (taken : answer.prepared.plan.route.hit? = some hit)
    : ∃ t rule rows,
        s.catalog.table? q.source = some t
        ∧ s.catalog.rule? context.role t = some rule
        ∧ (Access.apply s.catalog q context).result = .ok answer.prepared.plan.granted
        ∧ answer.rows = some rows
        ∧ s.WithinRights q context answer.prepared t rule rows := by
  obtain ⟨prepares, rows, ran, answered⟩ := prepares_of_execute executed
  obtain ⟨scope, rule, joins, only, rights, shown⟩ := prepares.of_mem_visibleRows taken
  have granted := Access.granted_of_apply prepares.granted
  have accepted := Validation.accepted_of_issues prepares.valid
  rw [Service.rows, taken] at ran
  obtain ⟨key, fetched, rfl, given⟩ := completeHit_eq_ok ran
  obtain ⟨kept, merged, among⟩ := Cache.exists_merge_eq hit.visibleRows fetched
    answer.prepared.plan.granted.selection key
  refine ⟨scope.table, rule, _, rights.table, rights.ruled, prepares.granted, answered, ?_⟩
  constructor
  case origins =>
    exact ⟨hit.visibleRows, kept, merged, shown, fun row member => given row (among row member)⟩
  case labels => exact fun _ => Cache.keys_of_mem_merge (granted.labels_nodup accepted joins)
  case columns =>
    intro ref selected
    obtain ⟨other, found, listed⟩ := granted.allows_of_selection selected
    have of := granted.table_eq_of_mem accepted joins selected
    rw [only, of, List.lookup_cons_self, Option.some.injEq] at found
    rw [← found, rights.allowed] at listed
    exact ⟨of, Access.admits_of_mem_allowed listed⟩

end Service

namespace Sample

/-- A cache with a stranger in the place of the first user, a user of another tenant, and one
without a tenant.
-/
def forgedStore : Cache.Store := [
  ("users:1", .object (cachedUser 9 "Eve" "acme")),
  ("users:2", .object (cachedUser 2 "Bob" "other")),
  ("users:3", .object [("id", .int 3), ("name", .text "Dan")])]

def forgedService : Service :=
  { service with facilities := ⟨false, some forgedStore.cache, true, runtime⟩ }

/-- The stranger is of the tenant of the clerk and is shown, the second user is hidden, and the
third is fetched.
-/
theorem forgery_within_rights
    : ∃ answer hit t rule rows,
        (forgedService.execute lookup context .never []).result = .ok answer
        ∧ answer.prepared.plan.route.hit? = some hit
        ∧ hit.served = [.int 1, .int 2]
        ∧ answer.rows = some rows
        ∧ rows = [
          [("id", .int 9), ("name", .text "Eve")], [("id", .int 3), ("name", .text "Cid")]]
        ∧ forgedService.WithinRights lookup context answer.prepared t rule rows := by
  have parts
      : (forgedService.execute lookup context .never []).result.map
          (fun answer => (answer.prepared.plan.route.hit?.map (·.served), answer.rows))
        = .ok
          (some [.int 1, .int 2],
            some [
              [("id", .int 9), ("name", .text "Eve")],
              [("id", .int 3), ("name", .text "Cid")]]) := by
    cbv
  obtain ⟨answer, executed, parts⟩ := Outcome.map_eq_ok.mp parts
  obtain ⟨seen, shown⟩ := Prod.mk.inj parts
  obtain ⟨hit, taken, served⟩ := Option.map_eq_some_iff.mp seen
  obtain ⟨t, rule, rows, _, _, _, answered, within⟩ :=
    Service.execute_within_rights executed taken
  rw [answered, Option.some.injEq] at shown
  exact ⟨answer, hit, t, rule, rows, executed, taken, served, answered, shown, within⟩

end Sample

end Polystore
