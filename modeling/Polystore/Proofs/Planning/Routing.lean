import Polystore.Planning.Planner
import Polystore.Proofs.Access.Granting
import Polystore.Proofs.Trace.Outcomes

/-! What a plan consists of, whichever route it takes. Every table of the query is assigned a
copy of itself, and a statement is restricted to ids only where the query asks for ids.
-/

namespace Polystore.Planning

-----------------------------------------------------------------------------------------
-- The first route that applies
-----------------------------------------------------------------------------------------

/-- The routes after the first are tried exactly when that one does not apply. -/
theorem firstRoute_cons_eq_ok {attempt : Traced (Option Route)}
    {others : List (Traced (Option Route))} {found : Option Route}
    : (firstRoute (attempt :: others)).result = .ok found
      ↔ (∃ route, attempt.result = .ok (some route) ∧ found = some route)
        ∨ (attempt.result = .ok none ∧ (firstRoute others).result = .ok found) := by
  simp only [firstRoute, Traced.result_bind, Outcome.bind_eq_ok]
  constructor
  · rintro ⟨taken, result, h⟩
    cases taken with
    | none => exact .inr ⟨result, h⟩
    | some route =>
        cases h
        exact .inl ⟨route, result, rfl⟩
  · rintro (⟨route, result, rfl⟩ | ⟨result, h⟩)
    · exact ⟨_, result, rfl⟩
    · exact ⟨_, result, h⟩

/-- A route that is chosen is the first that applies. -/
theorem chooseRoute_eq_ok {s : Setting} {route : Route}
    : (chooseRoute s).result = .ok route
      ↔ (firstRoute [throughCache s, direct s, materialized s, federated s]).result
        = .ok (some route) := by
  simp only [chooseRoute, Traced.result_bind, Outcome.bind_eq_ok]
  constructor
  · rintro ⟨taken, result, h⟩
    cases taken with
    | none => simp at h
    | some other =>
        cases h
        exact result
  · intro result
    exact ⟨_, result, rfl⟩

-----------------------------------------------------------------------------------------
-- What each route is
-----------------------------------------------------------------------------------------

/-- A look-up that the cache may answer: rows of one cached table by ids and nothing else,
where the cached rows hold every column that is needed.
-/
structure Answerable (s : Setting) (l : Lookup) : Prop where
  ids : s.granted.query.idList ≠ []
  tables : s.tables = [l.table]
  filters : s.granted.query.filters = []
  plain : s.granted.query.isAggregate = false ∧ s.granted.query.mode = .rows
  whole
    : s.granted.query.orderBy = [] ∧ s.granted.query.limit = none
      ∧ s.granted.query.offset = none
  cache : s.facilities.cache = some l.cache
  entry : s.catalog.cacheOf? l.table = some l.entry
  held : ∀ columns, l.entry.columns = some columns → lackingColumns s l.table columns = []

/-- Every look-up that is made is answerable: each check that could refuse it has passed. -/
theorem answerable_of_lookup {s : Setting} {l : Lookup} (h : lookup s = .ok l)
    : Answerable s l := by
  simp only [lookup] at h
  split at h
  · cases h
  next asked =>
  split at h
  next t single =>
    split at h
    · cases h
    next unfiltered =>
    split at h
    · cases h
    next plain =>
    split at h
    · cases h
    next whole =>
    split at h
    next cache enabled present =>
      split at h
      · cases h
      next entry listed =>
      have made : Answerable s ⟨t, entry, cache⟩
          ↔ ∀ columns, entry.columns = some columns → lackingColumns s t columns = [] := by
        refine ⟨Answerable.held, fun held => ⟨?_, single, ?_, ?_, ?_, present, listed, held⟩⟩
        · simpa using asked
        · simpa using unfiltered
        · simpa using plain
        · simpa [and_assoc] using whole
      cases held : entry.columns with
      | none =>
          simp only [held, List.isEmpty_nil, if_true] at h
          cases h
          exact made.mpr (by simp [held])
      | some columns =>
          simp only [held] at h
          split at h
          next complete =>
            cases h
            exact made.mpr (by simpa [held] using complete)
          · cases h
    · cases h
  · cases h

/-- A route through the cache is taken for a look-up by ids only. -/
theorem idList_ne_nil_of_throughCache {s : Setting} {route : Route}
    (h : (throughCache s).result = .ok (some route))
    : s.granted.query.idList ≠ [] := by
  unfold throughCache at h
  split at h
  · simp [skipCache] at h
  next l found => exact (answerable_of_lookup found).ids

/-- Without a cache there is no route through it. -/
theorem throughCache_eq_none {s : Setting} (h : s.facilities.cache = none)
    : (throughCache s).result = .ok none := by
  unfold throughCache
  cases found : lookup s with
  | error reason => simp [skipCache]
  | ok l =>
      have present := (answerable_of_lookup found).cache
      rw [h] at present
      cases present

/-- A route other than that through the cache holds no rows. -/
theorem hit?_eq_none {s : Setting} {route : Route}
    (h : (firstRoute [direct s, materialized s, federated s]).result = .ok (some route))
    : route.hit? = none := by
  simp only [firstRoute_cons_eq_ok] at h
  rcases h with ⟨taken, result, same⟩ | ⟨_, ⟨taken, result, same⟩ | ⟨_, h⟩⟩
  · cases same
    unfold direct at result
    split at result
    · cases result
      rfl
    · simp at result
  · cases same
    unfold materialized at result
    split at result
    · simp at result
    · simp only [Traced.result_bind, Traced.result_note, Outcome.ok_bind] at result
      cases result
      rfl
  · rcases h with ⟨taken, result, same⟩ | ⟨_, h⟩
    · cases same
      unfold federated at result
      split at result
      · cases result
        rfl
      · simp at result
    · simp [firstRoute] at h

-----------------------------------------------------------------------------------------
-- The plan of a route
-----------------------------------------------------------------------------------------

/-- The assignment of a copy in a database, with catalog and schema where they are named. -/
def assignmentIn (d : Database) (qualified : Bool) (copy : Copy) : Assignment :=
  if qualified || d.engine == .iceberg then ⟨copy, d.catalog, some d.schema⟩
  else ⟨copy, none, none⟩

@[simp]
theorem copy_assignmentIn (d : Database) (qualified : Bool) (copy : Copy)
    : (assignmentIn d qualified copy).copy = copy := by
  unfold assignmentIn
  split <;> rfl

/-- A copy is assigned exactly where its database is declared. -/
theorem assign_eq_ok {c : Catalog} {qualified : Bool} {copy : Copy} {a : Assignment}
    : assign c qualified copy = .ok a
      ↔ ∃ d, c.database? copy.database = some d ∧ assignmentIn d qualified copy = a := by
  unfold assign databaseOf assignmentIn
  cases c.database? copy.database with
  | none => simp [bind, Except.bind]
  | some d =>
      simp only [Outcome.ok_bind, Option.some.injEq, exists_eq_left']
      split <;> simp

/-- The copy that serves a table on a route is one of that table. -/
theorem copyFor_eq_ok {c : Catalog} {route : Route} {t : Table} {copy : Copy}
    (h : copyFor c route t = .ok copy)
    : copy.table = t := by
  unfold copyFor at h
  split at h
  · split at h
    next found =>
      cases h
      rcases List.mem_cons.mp (List.mem_of_find?_eq_some found) with rfl | replica
      · rfl
      · obtain ⟨_, _, rfl⟩ := List.mem_map.mp replica
        rfl
    · cases h
  · cases h
    rfl

/-- Whether tables are named with catalog and schema on a route wherever they are. -/
def qualifies (route : Route) : Bool := route matches .federated

/-- The tables of a route are assigned exactly where each of them is, in order, by induction on the
tables.
-/
theorem assignments_eq_ok {c : Catalog} {route : Route} {tables : List Table}
    {made : Entries String Assignment}
    : assignments c route tables = .ok made
      ↔ List.Forall₂
          (fun t e =>
            e.1 = t.apiName
            ∧ ∃ copy,
                copyFor c route t = .ok copy ∧ assign c (qualifies route) copy = .ok e.2)
          tables made := by
  induction tables generalizing made with
  | nil => cases made <;> simp [assignments]
  | cons t rest ih =>
      simp only [assignments, Outcome.bind_eq_ok]
      constructor
      · rintro ⟨copy, hcopy, a, ha, later, hlater, h⟩
        cases h
        exact .cons ⟨rfl, copy, hcopy, ha⟩ (ih.mp hlater)
      · intro aligned
        cases aligned with
        | @cons _ e _ later head behind =>
            obtain ⟨name, a⟩ := e
            obtain ⟨rfl, copy, hcopy, ha⟩ := head
            exact ⟨copy, hcopy, a, ha, later, ih.mpr behind, rfl⟩

/-- Every table of a route is assigned a copy of itself. -/
theorem assignments_own {c : Catalog} {route : Route} {tables : List Table}
    {made : Entries String Assignment} (h : assignments c route tables = .ok made)
    : List.Forall₂ (fun t e => e.1 = t.apiName ∧ e.2.copy.table = t) tables made := by
  refine (assignments_eq_ok.mp h).imp ?_
  rintro t e ⟨name, copy, hcopy, ha⟩
  obtain ⟨d, _, assigned⟩ := assign_eq_ok.mp ha
  rw [← assigned, copy_assignmentIn]
  exact ⟨name, copyFor_eq_ok hcopy⟩

/-- The plan of a route has its assignments, its dialect and its ids. -/
theorem planFor_eq_ok {s : Setting} {route : Route} {p : Plan}
    : planFor s route = .ok p
      ↔ ∃ made engine,
          assignments s.catalog route s.tables = .ok made
          ∧ engineFor s.catalog route = .ok engine
          ∧ Plan.mk route engine made s.granted s.tolerance (idsFor route s.granted.query) = p := by
  simp only [planFor, Outcome.bind_eq_ok, Outcome.pure_eq, Except.ok.injEq]
  constructor
  · rintro ⟨made, hmade, engine, hengine, same⟩
    exact ⟨made, engine, hmade, hengine, same⟩
  · rintro ⟨made, engine, hmade, hengine, same⟩
    exact ⟨made, hmade, engine, hengine, same⟩

/-- The tables of a query are those of the scopes of their names, by induction on the names. -/
theorem tablesOf_eq_ok {s : ScopedQuery} {names : List String} {tables : List Table}
    (h : tablesOf s names = .ok tables)
    : List.Forall₂
        (fun name t => ∃ scope, s.scopes.lookup name = some scope ∧ scope.table = t)
        names tables := by
  induction names generalizing tables with
  | nil => cases h; exact .nil
  | cons name rest ih =>
      unfold tablesOf at h
      split at h
      · cases h
      next scope found =>
        obtain ⟨later, hlater, rfl⟩ := Outcome.map_eq_ok.mp h
        exact .cons ⟨scope, found, rfl⟩ (ih hlater)

/-- Planning succeeds with the plan of the route chosen for the tables of the query. -/
theorem plan_eq_ok {c : Catalog} {facilities : Facilities} {granted : ScopedQuery}
    {context : Context} {tolerance : Freshness} {p : Plan}
    : (plan c facilities granted context tolerance).result = .ok p
      ↔ ∃ tables route,
          tablesOf granted granted.query.tableNames = .ok tables
          ∧ (chooseRoute ⟨c, facilities, granted, tables, context, tolerance⟩).result
            = .ok route
          ∧ planFor ⟨c, facilities, granted, tables, context, tolerance⟩ route = .ok p := by
  unfold plan
  cases known : tablesOf granted granted.query.tableNames with
  | error fault => simp
  | ok tables =>
      simp only [Traced.result_bind, Traced.result_note, Outcome.ok_bind, Outcome.bind_eq_ok,
        Except.ok.injEq]
      constructor
      · rintro ⟨route, chosen, h⟩
        refine ⟨tables, route, rfl, chosen, ?_⟩
        split at h
        · cases h
        next made =>
          simp only [Traced.result_bind, Traced.result_note, Traced.result_log,
            Outcome.ok_bind] at h
          cases h
          exact made
      · rintro ⟨_, route, rfl, chosen, made⟩
        refine ⟨route, chosen, ?_⟩
        simp [made]

/-- The plan of a query under access control: every touched table is assigned a copy of the
table of its scope, and a statement is restricted to ids exactly where the query asks for ids.
-/
structure Planned (s : ScopedQuery) (p : Plan) : Prop where
  granted : p.granted = s
  assigned
    : List.Forall₂
        (fun name e =>
          ∃ scope, s.scopes.lookup name = some scope ∧ e.1 = scope.table.apiName
            ∧ e.2.copy.table = scope.table)
        s.query.tableNames p.assignments
  restricted : p.ids.isSome → s.query.idList ≠ []
  asked : p.needsSql = true → s.query.idList ≠ [] → p.ids.isSome

/-- A route that needs a statement restricts it to ids where the query asks for ids. -/
theorem idsFor_isSome {c : Catalog} {route : Route} {engine : String} {q : Query}
    (needed : engineFor c route = .ok (some engine)) (asked : q.idList ≠ [])
    : (idsFor route q).isSome := by
  cases route with
  | cached hit =>
      cases complete : hit.isComplete with
      | true => simp [engineFor, complete] at needed
      | false => simp [idsFor, complete]
  | direct database => simp [idsFor, asked]
  | materialized database => simp [idsFor, asked]
  | federated => simp [idsFor, asked]

/-- What is assigned to the tables of scopes is assigned to the scopes, by induction on the
names.
-/
theorem assigned_of_scopes {s : ScopedQuery} {names : List String} {tables : List Table}
    {made : Entries String Assignment}
    (found
      : List.Forall₂
          (fun name t => ∃ scope, s.scopes.lookup name = some scope ∧ scope.table = t)
          names tables)
    (copied : List.Forall₂ (fun t e => e.1 = t.apiName ∧ e.2.copy.table = t) tables made)
    : List.Forall₂
        (fun name e =>
          ∃ scope, s.scopes.lookup name = some scope ∧ e.1 = scope.table.apiName
            ∧ e.2.copy.table = scope.table)
        names made := by
  induction found generalizing made with
  | nil => cases copied; exact .nil
  | cons head _ ih =>
      obtain ⟨scope, looked, rfl⟩ := head
      cases copied with
      | cons same later => exact .cons ⟨scope, looked, same⟩ (ih later)

/-- A plan that planning makes is planned, whichever route it takes. -/
theorem planned_of_plan {c : Catalog} {facilities : Facilities} {granted : ScopedQuery}
    {context : Context} {tolerance : Freshness} {p : Plan}
    (h : (plan c facilities granted context tolerance).result = .ok p)
    : Planned granted p := by
  obtain ⟨tables, route, known, chosen, made⟩ := plan_eq_ok.mp h
  obtain ⟨assigned, engine, hassigned, hengine, rfl⟩ := planFor_eq_ok.mp made
  constructor
  case granted => rfl
  case assigned =>
    exact assigned_of_scopes (tablesOf_eq_ok known) (assignments_own hassigned)
  case restricted =>
    intro some none
    unfold idsFor at some
    split at some
    next hit =>
      rw [chooseRoute_eq_ok, firstRoute_cons_eq_ok] at chosen
      rcases chosen with ⟨_, through, _⟩ | ⟨_, others⟩
      · exact idList_ne_nil_of_throughCache through none
      · cases hit?_eq_none others
    · simp [none] at some
  case asked =>
    intro needed asked
    obtain ⟨name, rfl⟩ := Option.isSome_iff_exists.mp needed
    exact idsFor_isSome hengine asked

end Polystore.Planning
