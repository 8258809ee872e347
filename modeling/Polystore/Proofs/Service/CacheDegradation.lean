import Polystore.Proofs.Planning.Assignments
import Polystore.Proofs.Planning.Dialects
import Polystore.Proofs.Service.CachedAccess

/-! A cache that cannot be used. Planning with a cache fails for no other reason than planning
without it exactly where the keys can be made, or lack a value, and what the cache holds under them
is legible; a failure of the cache itself is none of planning.
-/

namespace Polystore

open Outcome

namespace Planning

variable {c : Catalog} {facilities : Facilities} {granted : ScopedQuery} {context : Context}
  {tolerance : Freshness} {tables : List Table}

-----------------------------------------------------------------------------------------
-- Plans without a hit
-----------------------------------------------------------------------------------------

/-- Where the cache does not answer, the plan is the one without it, whichever route it takes. -/
theorem result_plan_of_none (known : tablesOf granted granted.query.tableNames = .ok tables)
    (none
      : (throughCache ⟨c, facilities, granted, tables, context, tolerance⟩).result = .ok none)
    : (plan c facilities granted context tolerance).result
      = (plan c (withoutCache facilities) granted context tolerance).result := by
  have without
      : (throughCache ⟨c, withoutCache facilities, granted, tables, context, tolerance⟩).result
        = .ok Option.none :=
    throughCache_eq_none rfl
  have chosen
      : (chooseRoute ⟨c, facilities, granted, tables, context, tolerance⟩).result
        = (chooseRoute
            ⟨c, withoutCache facilities, granted, tables, context, tolerance⟩).result := by
    unfold chooseRoute firstRoute
    rw [Traced.result_bind, Traced.result_bind, Traced.result_bind, Traced.result_bind, none,
      without]
    rfl
  unfold plan
  rw [known]
  simp only [Traced.result_bind, Traced.result_note, Outcome.ok_bind, chosen]
  rfl

/-- A fault of the cache is one of planning. -/
theorem result_plan_of_error (known : tablesOf granted granted.query.tableNames = .ok tables)
    {failure : Failure}
    (failed
      : (throughCache ⟨c, facilities, granted, tables, context, tolerance⟩).result
        = .error failure)
    : (plan c facilities granted context tolerance).result = .error failure := by
  unfold plan chooseRoute firstRoute
  rw [known]
  simp only [Traced.result_bind, Traced.result_note, Outcome.ok_bind, failed]
  rfl

/-- The database that is home to a declared table can always be planned for. -/
theorem exists_planFor_direct {s : Setting} {t : Table} (single : s.tables = [t])
    (declared : t ∈ s.catalog.tables)
    : ∃ p, planFor s (.direct t.database) = .ok p ∧ p.engine.isSome := by
  have plannable : s.Plannable := by
    constructor <;> simp [single, declared]
  have home : Preferred s.catalog s.facilities s.tolerance s.tables (.direct t.database) := by
    simp [Preferred, single]
  obtain ⟨p, made⟩ := plannable.exists_planFor home
  obtain ⟨_, _, _, addressed, rfl⟩ := planFor_eq_ok.mp made
  obtain ⟨engine, rfl⟩ := exists_engine_of_hit?_eq_none addressed rfl
  exact ⟨_, made, rfl⟩

/-- A query that the cache is asked about looks rows up by ids and does nothing else. -/
theorem looksUp_of_lookup {q : Query} (accepted : Validation.Accepted c q)
    (allowed : Access.Granted c q context granted) {s : Setting} {l : Lookup}
    (looked : lookup s = .ok l) (same : s.granted = granted)
    (known : tablesOf granted granted.query.tableNames = .ok s.tables)
    : q.LooksUp q.idList := by
  obtain ⟨_, _, joins, _⟩ := scope_of_lookup accepted allowed looked same known
  have query : s.granted.query = q := by rw [same, allowed.query]
  obtain ⟨ids, _, filters, ⟨plain, mode⟩, ⟨orderBy, limit, offset⟩, _⟩ :=
    answerable_of_lookup looked
  rw [query] at ids filters plain mode orderBy limit offset
  obtain ⟨aggregations, groupBy⟩ : q.aggregations = [] ∧ q.groupBy = [] := by
    simpa [Query.isAggregate] using plain
  have byIds : q.byIds = some q.idList := by
    unfold Query.idList at ids ⊢
    cases asked : q.byIds with
    | none => simp [asked] at ids
    | some found => rfl
  exact ⟨byIds, joins, filters, groupBy, aggregations, orderBy, limit, offset, mode⟩

/-- A lookup that the cache is asked about has a plan without it, with a statement. -/
theorem exists_plan_withoutCache {q : Query} (accepted : Validation.Accepted c q)
    (allowed : Access.Granted c q context granted) {l : Lookup}
    (looked : lookup ⟨c, facilities, granted, tables, context, tolerance⟩ = .ok l)
    (known : tablesOf granted granted.query.tableNames = .ok tables)
    : ∃ p engine,
        planFor ⟨c, facilities, granted, tables, context, tolerance⟩ (.direct l.table.database)
          = .ok p
        ∧ p.engine = some engine
        ∧ (plan c (withoutCache facilities) granted context tolerance).result = .ok p := by
  obtain ⟨scope, _, _, _, rights, table, _⟩ :=
    scope_of_lookup accepted allowed looked rfl known
  have single : tables = [l.table] := (answerable_of_lookup looked).tables
  have declared : l.table ∈ c.tables := table ▸ (Catalog.table?_eq_some rights.table).2
  subst single
  obtain ⟨p, home, needed⟩ :=
    exists_planFor_direct (s := ⟨c, facilities, granted, [l.table], context, tolerance⟩) rfl
      declared
  obtain ⟨engine, needed⟩ := Option.isSome_iff_exists.mp needed
  have home' : planFor ⟨c, withoutCache facilities, granted, [l.table], context, tolerance⟩
      (.direct l.table.database) = .ok p :=
    home
  exact ⟨p, engine, home, needed, plan_of_none known home' (throughCache_eq_none rfl)⟩

end Planning

namespace Service

open Planning

variable {s : Service} {q : Query} {context : Context} {granted : ScopedQuery}

-----------------------------------------------------------------------------------------
-- Reasons for which a lookup is not written
-----------------------------------------------------------------------------------------

/-- An engine has a dialect, or none for a reason of its own. -/
theorem avoids_find (dialects : Dialects) (engine : String)
    : Avoids Failure.OfCache (dialects.find (.text engine)) := by
  have names : Avoids Fault.OfCache dialects.names := by
    refine (FailsOnly.mapM fun key _ => ?_).map _
    split
    · exact failsOnly_ok _
    · exact failsOnly_error id
  unfold Dialects.find
  simp only [Value.isCollection, Bool.false_eq_true, if_false]
  split
  · exact failsOnly_ok _
  · exact failsOnly_error id
  · exact failsOnly_error id
  next failed => exact failsOnly_error (names _ failed)

/-- No reason for which the statement of a query is not written is a fault of the cache. -/
theorem avoids_written {p : Plan} (h : Statement.Resolvable s.catalog q context p)
    (valid : Validation.issues s.catalog q = []) {engine : String} (needed : p.engine = some engine)
    : Avoids Failure.OfCache (s.written p) := by
  refine (failsOnly_written h valid needed).imp ?_
  rintro failure (unknown | ⟨d, _, lacks | unfit⟩)
  · exact avoids_find _ _ _ unknown
  · exact id
  · exact id

-----------------------------------------------------------------------------------------
-- Planning with and without a cache
-----------------------------------------------------------------------------------------

/-- A cache that a service can use in planning a query. -/
def CacheUsable (s : Service) (q : Query) (context : Context) : Prop :=
  ∀ granted tables,
    (Access.apply s.catalog q context).result = .ok granted
    → tablesOf granted granted.query.tableNames = .ok tables
    → Planning.CacheUsable
        ⟨s.catalog, s.facilities, granted, tables, context, q.freshness.getD s.standardFreshness⟩

/-- Planning a query fails with a cache only as it fails without one. -/
def Degrades (s : Service) (q : Query) (context : Context) (past : List Happening) : Prop :=
  ∀ failure,
    (s.plan q context .never past).result = .error failure
    → (s.withoutCache.plan q context .never past).result = .error failure

variable {tables : List Table} (valid : Validation.issues s.catalog q = [])
  (allowed : (Access.apply s.catalog q context).result = .ok granted) (past : List Happening)
  (known : tablesOf granted granted.query.tableNames = .ok tables)

/-- What a query that is granted is planned with. -/
abbrev planned (s : Service) (q : Query) (context : Context) (granted : ScopedQuery)
    (tables : List Table)
    : Setting :=
  ⟨s.catalog, s.facilities, granted, tables, context, q.freshness.getD s.standardFreshness⟩

include allowed in
/-- A granted query touches tables with known scopes. -/
theorem exists_tables : ∃ tables, tablesOf granted granted.query.tableNames = .ok tables :=
  ⟨_, (Access.granted_of_apply allowed).tablesOf_tableNames⟩

include allowed known in
/-- Whether the cache is usable is decided by the setting in which a granted query is planned. -/
theorem cacheUsable_iff
    : s.CacheUsable q context ↔ Planning.CacheUsable (s.planned q context granted tables) := by
  constructor
  · exact fun h => h granted tables allowed known
  · intro h granted' tables' allowed' known'
    cases allowed.symm.trans allowed'
    cases known.symm.trans known'
    exact h

include valid allowed known

/-- A query that the cache does not answer is planned as without it. -/
theorem plan_eq_of_none
    (none : (throughCache (s.planned q context granted tables)).result = .ok none)
    : (s.plan q context .never past).result
      = (s.withoutCache.plan q context .never past).result := by
  rw [result_plan valid allowed, result_plan (s := s.withoutCache) valid allowed,
    result_plan_of_none known none]
  rfl

/-- Without the cache, a lookup that it is asked about does not fail for a fault of it. -/
theorem avoids_plan_withoutCache {l : Lookup}
    (looked : lookup (s.planned q context granted tables) = .ok l)
    : Avoids Failure.OfCache (s.withoutCache.plan q context .never past).result := by
  have accepted := Validation.accepted_of_issues valid
  have rights := Access.granted_of_apply allowed
  obtain ⟨p, engine, _, needed, planned⟩ := exists_plan_withoutCache accepted rights looked known
  rw [result_plan (s := s.withoutCache) valid allowed]
  have resolvable := Statement.resolvable_of_plan valid allowed planned
  have planned' : (Planning.plan s.withoutCache.catalog s.withoutCache.facilities granted context
      (q.freshness.getD s.withoutCache.standardFreshness)).result = .ok p :=
    planned
  rw [planned', Outcome.ok_bind]
  exact (avoids_written (s := s.withoutCache) resolvable valid needed).map _

/-- A lookup that the cache has a hit for fails as it does without the cache, and otherwise comes
to a plan with the hit.
-/
theorem plan_of_hit {route : Route}
    (through : (throughCache (s.planned q context granted tables)).result = .ok (some route))
    : s.Degrades q context past
      ∧ ∀ answer,
          (s.plan q context .never past).result = .ok answer
          → answer.prepared.plan.route.hit?.isSome := by
  have accepted := Validation.accepted_of_issues valid
  have rights := Access.granted_of_apply allowed
  obtain ⟨l, keys, values, reads, rfl⟩ := hit_of_throughCache through
  generalize hitIs : hitOf s.facilities.runtime.nesting values
    (rowsOf (s.planned q context granted tables) l) keys l.table.database = hit at through
  have home : hit.database = l.table.database := by rw [← hitIs]; rfl
  obtain ⟨p, engine, atHome, needed, planned⟩ :=
    exists_plan_withoutCache accepted rights reads.looked known
  have look := looksUp_of_lookup accepted rights reads.looked rfl known
  have answerable := answerable_of_lookup reads.looked
  have single : tables = [l.table] := answerable.tables
  have asked : q.idList ≠ [] := rights.query ▸ answerable.ids
  subst single
  have after := Planning.plan_of_hit known atHome home through
  have without := Statement.resolvable_of_plan valid allowed planned
  have resolvable := Statement.resolvable_of_plan valid allowed after
  have result : (s.plan q context .never past).result
      = (fun statement => ⟨⟨afterHit p hit, statement⟩, none⟩) <$> s.written (afterHit p hit) := by
    rw [result_plan valid allowed, after, Outcome.ok_bind]
  constructor
  · intro failure failed
    rw [result, ← failure?_eq_some, failure?_map] at failed
    have withoutResult : (s.withoutCache.plan q context .never past).result
        = (fun statement => ⟨⟨p, statement⟩, none⟩) <$> s.written p := by
      rw [result_plan (s := s.withoutCache) valid allowed]
      exact congrArg (· >>= _) planned
    rw [withoutResult, ← failure?_eq_some, failure?_map, ← failed]
    cases complete : hit.isComplete with
    | true => simp [written, Plan.needsSql, afterHit, complete, failure?] at failed
    | false =>
        obtain ⟨scope, _, _, _, of, table, _⟩ :=
          scope_of_lookup accepted rights reads.looked rfl known
        have source : s.catalog.table? q.source = some l.table := by rw [table, of.table]
        have restricted := (planFor_direct atHome).2.2 (rights.query.symm ▸ asked)
        rw [rights.query] at restricted
        exact (failure?_written without look source restricted needed complete resolvable).symm
  · intro answer h
    rw [result] at h
    obtain ⟨statement, _, rfl⟩ := Outcome.map_eq_ok.mp h
    rfl

/-- The row rules of a lookup are decided on every row. -/
theorem exists_meets_of_lookup {l : Lookup}
    (looked : lookup (s.planned q context granted tables) = .ok l) (row : Row)
    : ∃ met, row.meets (rowsOf (s.planned q context granted tables) l) = .ok met := by
  have accepted := Validation.accepted_of_issues valid
  have rights := Access.granted_of_apply allowed
  obtain ⟨scope, rule, _, _, of, _, rows⟩ := scope_of_lookup accepted rights looked rfl known
  obtain ⟨met, checked, _⟩ := row.exists_meets context q.source rule.rows
  exact ⟨met, by rw [rows, of.rows, checked]⟩

omit known in
/-- Planning a query that is valid and granted fails with a cache only as it fails without one
exactly where the cache is usable. What it comes to has a hit, or is what it comes to without the
cache.
-/
theorem degrades_iff_cacheUsable
    : (s.Degrades q context past ↔ s.CacheUsable q context)
      ∧ ∀ answer,
          (s.plan q context .never past).result = .ok answer
          → answer.prepared.plan.route.hit?.isSome
            ∨ (s.withoutCache.plan q context .never past).result = .ok answer := by
  obtain ⟨tables, known⟩ := exists_tables allowed
  have decided (l : Lookup) (looked : lookup (s.planned q context granted tables) = .ok l)
      (row : Row) :=
    exists_meets_of_lookup valid allowed known looked row
  rw [cacheUsable_iff allowed known, ← exists_throughCache_iff decided]
  cases through : (throughCache (s.planned q context granted tables)).result with
  | error failure =>
      have failed : (s.plan q context .never past).result = .error failure := by
        rw [result_plan valid allowed, result_plan_of_error known through]
        rfl
      refine ⟨iff_of_false (fun degrades => ?_) nofun, fun answer h => ?_⟩
      · obtain ⟨l, looked⟩ : ∃ l, lookup (s.planned q context granted tables) = .ok l := by
          cases looked : lookup (s.planned q context granted tables) with
          | error reason => simp [result_throughCache, looked] at through
          | ok l => exact ⟨l, rfl⟩
        exact avoids_plan_withoutCache valid allowed past known looked failure
          (degrades failure failed) (ofCache_of_throughCache decided through)
      · cases failed.symm.trans h
  | ok found =>
      cases found with
      | none =>
          have same := plan_eq_of_none valid allowed past known through
          refine ⟨iff_of_true (fun failure failed => ?_) ⟨_, rfl⟩, fun answer h => .inr ?_⟩
          · rw [← same, failed]
          · rw [← same, h]
      | some route =>
          obtain ⟨degrades, hits⟩ := plan_of_hit valid allowed past known through
          exact ⟨iff_of_true degrades ⟨_, rfl⟩, fun answer h => .inl (hits answer h)⟩

end Service

namespace Sample

/-- A cache that cannot be reached. -/
def outageService : Service :=
  { service with
    facilities := ⟨false, some (Cache.failing ⟨"ConnectionError", "down"⟩), true, runtime⟩ }

/-- A cache whose octets for the first user are no text. -/
def garbledService : Service :=
  { service with
    facilities := ⟨false, some (Cache.Store.cache [("users:1", .octets [0xff])]), true, runtime⟩ }

theorem lookup_granted : ∃ granted, (Access.apply catalog lookup context).result = .ok granted := by
  have selected
      : (Access.apply catalog lookup context).result.map (·.selection.length) = .ok 2 := by
    cbv
  obtain ⟨granted, allowed, _⟩ := Outcome.map_eq_ok.mp selected
  exact ⟨granted, allowed⟩

/-- Octets that are no text keep a lookup from being planned, which the database alone plans. -/
theorem garbled_not_degrades
    : Validation.issues catalog lookup = []
      ∧ (∃ granted, (Access.apply catalog lookup context).result = .ok granted)
      ∧ ¬ garbledService.Degrades lookup context [] := by
  refine ⟨by cbv, lookup_granted, fun degrades => ?_⟩
  have fails : (garbledService.plan lookup context .never []).result.map (fun _ => ())
      = .error (.fault (.unreadableText ⟨0, 1, 0xff, .startByte⟩)) := by
    cbv
  have plans : (garbledService.withoutCache.plan lookup context .never []).result.map (fun _ => ())
      = .ok () := by
    cbv
  cases result : (garbledService.plan lookup context .never []).result with
  | ok answer =>
      rw [result] at fails
      cases fails
  | error failure =>
      rw [degrades failure result] at plans
      cases plans

/-- A cache that cannot be reached does not keep a lookup from being planned. -/
theorem outage_degrades
    : Validation.issues catalog lookup = []
      ∧ (∃ granted, (Access.apply catalog lookup context).result = .ok granted)
      ∧ outageService.CacheUsable lookup context
      ∧ outageService.Degrades lookup context [] := by
  have valid : Validation.issues catalog lookup = [] := by cbv
  obtain ⟨granted, allowed⟩ := lookup_granted
  have usable : outageService.CacheUsable lookup context := by
    intro granted' tables allowed' _ l looked
    have answerable := Planning.answerable_of_lookup looked
    constructor
    · have listed : l.entry ∈ catalog.document.caches :=
        List.mem_reverse.mp (List.mem_of_find?_eq_some answerable.entry)
      have pattern : l.entry.keyPattern = "users:\x7bid\x7d" := by
        rw [List.mem_singleton.mp listed]
      have query : granted'.query = lookup := (Access.granted_of_apply allowed').query
      have ids : Value.distinct [.int 1, .int 2, .int 3] = [.int 1, .int 2, .int 3] := by cbv
      rw [pattern, query]
      refine ⟨["id"], by cbv, .inr ?_⟩
      change ∀ id ∈ Value.distinct [.int 1, .int 2, .int 3], _
      rw [ids]
      simp only [List.mem_cons, List.not_mem_nil, or_false, forall_eq_or_imp, forall_eq]
      exact ⟨⟨rfl, "users:1", by cbv⟩, ⟨rfl, "users:2", by cbv⟩, rfl, "users:3", by cbv⟩
    · intro keys values reads
      have answered := reads.answered
      rw [← Option.some.inj answerable.cache] at answered
      cases answered
  exact ⟨valid, ⟨granted, allowed⟩, usable,
    (Service.degrades_iff_cacheUsable (s := outageService) valid allowed []).1.mpr usable⟩

end Sample

end Polystore
