import Mathlib
import Polystore.Proofs.Planning.Preference
import Polystore.Proofs.Statement.CopyNames
import Polystore.Proofs.Statement.Naming

/-! What a plan assigns. The tables of a query under access control are declared, so that the
preferred route for them always has a plan, in which every table is served by the copy that the
route calls for and goes by the name of that copy.
-/

namespace Polystore

-----------------------------------------------------------------------------------------
-- The tables of a query
-----------------------------------------------------------------------------------------

/-- The tables that a query touches, in order. -/
def Catalog.touched (c : Catalog) (q : Query) : List Table := q.tableNames.filterMap c.table?

theorem Query.tableNames_ne_nil (q : Query) : q.tableNames ≠ [] := by
  unfold Query.tableNames
  rw [List.eraseDups_cons]
  exact List.cons_ne_nil _ _

/-- The tables found by known names have these names, by induction on the names. -/
theorem Catalog.map_apiName_filterMap {c : Catalog} {names : List String}
    (known : ∀ name ∈ names, ∃ t, c.table? name = some t)
    : (names.filterMap c.table?).map (·.apiName) = names := by
  induction names with
  | nil => rfl
  | cons name rest ih =>
      obtain ⟨t, found⟩ := known name (List.mem_cons_self ..)
      have behind := ih fun other member => known other (List.mem_cons_of_mem _ member)
      rw [List.filterMap_cons_some found, List.map_cons, behind, (Catalog.table?_eq_some found).1]

/-- A table that a query touches is declared. -/
theorem Catalog.mem_tables_of_touched {c : Catalog} {q : Query} {t : Table}
    (member : t ∈ c.touched q)
    : t ∈ c.tables := by
  obtain ⟨name, _, found⟩ := List.mem_filterMap.mp member
  exact (Catalog.table?_eq_some found).2

namespace Access.Granted

variable {c : Catalog} {q : Query} {context : Context} {granted : ScopedQuery}

/-- The tables that a granted query touches are those of its table names, in order. -/
theorem touched_names (h : Granted c q context granted)
    : (c.touched q).map (·.apiName) = q.tableNames := by
  apply Catalog.map_apiName_filterMap
  intro name member
  obtain ⟨scope, _, rule, rights⟩ := h.scope_of_mem member
  exact ⟨_, rights.table⟩

theorem touched_ne_nil (h : Granted c q context granted) : c.touched q ≠ [] := by
  intro none
  have names := h.touched_names
  rw [none] at names
  exact q.tableNames_ne_nil names.symm

/-- The tables of some names in the scopes are those in the catalog, by induction on the names. -/
theorem tablesOf_eq (h : Granted c q context granted) {names : List String}
    (members : ∀ name ∈ names, name ∈ q.tableNames)
    : Planning.tablesOf granted names = .ok (names.filterMap c.table?) := by
  induction names with
  | nil => rfl
  | cons name rest ih =>
      obtain ⟨scope, found, rule, rights⟩ := h.scope_of_mem (members name (List.mem_cons_self ..))
      have behind := ih fun other member => members other (List.mem_cons_of_mem _ member)
      simp only [Planning.tablesOf, found, behind, Outcome.map_ok,
        List.filterMap_cons_some rights.table]

/-- Planning a granted query is choosing a route for the tables that it touches. -/
theorem tablesOf_tableNames (h : Granted c q context granted)
    : Planning.tablesOf granted granted.query.tableNames = .ok (c.touched q) := by
  rw [h.query]
  exact h.tablesOf_eq fun _ member => member

/-- What a granted query is planned with can be planned for. -/
theorem plannable (h : Granted c q context granted) (facilities : Facilities)
    (tolerance : Freshness)
    : Planning.Setting.Plannable ⟨c, facilities, granted, c.touched q, context, tolerance⟩ :=
  ⟨fun _ => Catalog.mem_tables_of_touched, h.touched_ne_nil⟩

end Access.Granted

-----------------------------------------------------------------------------------------
-- What a preferred route assigns
-----------------------------------------------------------------------------------------

namespace Planning

/-- Whether an assignment serves a table as a route calls for: by a fresh enough copy in the
database of the route, and otherwise by the home copy, under the catalog of its database where the
homes are federated.
-/
def Serving (c : Catalog) (tolerance : Freshness) (route : Route) (t : Table) (a : Assignment)
    : Prop :=
  match route with
  | .materialized database =>
      a.copy ∈ c.copies t ∧ a.copy.database = database ∧ a.copy.satisfies tolerance = true
  | .federated => a.copy = .home t ∧ ∃ catalog, c.Federates t catalog ∧ a.catalog = some catalog
  | _ => a.copy = .home t

/-- Whether an assignment names a copy as a route does in the database of the copy. -/
def NamedIn (c : Catalog) (route : Route) (a : Assignment) : Prop :=
  ∃ d, c.database? a.copy.database = some d ∧ assignmentIn d (qualifies route) a.copy = a

variable {s : Setting} {route : Route} {t : Table}

/-- The copy that serves a table on a preferred route is there. -/
theorem Setting.Plannable.exists_copyFor (h : s.Plannable)
    (preferred : Preferred s.catalog s.facilities s.tolerance s.tables route)
    (member : t ∈ s.tables)
    : ∃ copy ∈ s.catalog.copies t, copyFor s.catalog route t = .ok copy := by
  cases route with
  | materialized database =>
      obtain ⟨copy, listed, is, _⟩ := preferred.2.1 t member
      have found := (Catalog.copyIn?_eq_some_iff (h.declared t member)).mpr ⟨listed, is⟩
      exact ⟨copy, listed, by simp only [copyFor, found]⟩
  | cached hit => exact ⟨.home t, s.catalog.home_mem_copies t, rfl⟩
  | direct database => exact ⟨.home t, s.catalog.home_mem_copies t, rfl⟩
  | federated => exact ⟨.home t, s.catalog.home_mem_copies t, rfl⟩

/-- What is assigned to a table on a preferred route serves it. -/
theorem Setting.Plannable.serving (h : s.Plannable)
    (preferred : Preferred s.catalog s.facilities s.tolerance s.tables route)
    (member : t ∈ s.tables)
    {copy : Copy} {a : Assignment} (is : copyFor s.catalog route t = .ok copy)
    (assigned : assign s.catalog (qualifies route) copy = .ok a)
    : Serving s.catalog s.tolerance route t a := by
  obtain ⟨d, found, rfl⟩ := assign_eq_ok.mp assigned
  cases route with
  | materialized database =>
      obtain ⟨other, listed, there, fresh⟩ := preferred.2.1 t member
      have found := (Catalog.copyIn?_eq_some_iff (h.declared t member)).mpr ⟨listed, there⟩
      simp only [copyFor, found, Except.ok.injEq] at is
      subst is
      rw [Serving, copy_assignmentIn]
      exact ⟨listed, there, fresh⟩
  | federated =>
      cases is
      obtain ⟨catalog, some, home, found', named⟩ := preferred.2.2 t member
      obtain rfl : home = d := Option.some.inj (found'.symm.trans found)
      exact ⟨copy_assignmentIn .., catalog, ⟨some, home, found', named⟩, named⟩
  | cached hit =>
      cases is
      exact copy_assignmentIn ..
  | direct database =>
      cases is
      exact copy_assignmentIn ..

/-- The tables of a preferred route are all assigned. -/
theorem Setting.Plannable.exists_assignments (h : s.Plannable)
    (preferred : Preferred s.catalog s.facilities s.tolerance s.tables route)
    : ∃ made, assignments s.catalog route s.tables = .ok made := by
  simp only [assignments_eq_ok]
  refine Outcome.exists_forall₂ fun t member => ?_
  obtain ⟨copy, listed, is⟩ := h.exists_copyFor preferred member
  obtain ⟨d, found⟩ := Catalog.exists_database_of_copy (h.declared t member) listed
  exact ⟨(t.apiName, assignmentIn d (qualifies route) copy), rfl, copy, is,
    assign_eq_ok.mpr ⟨d, found, rfl⟩⟩

/-- A hit that leaves ids to a statement leaves them to the home database of its table. -/
theorem database_of_partial {c : Catalog} {facilities : Facilities} {tolerance : Freshness}
    {tables : List Table} {hit : CacheHit}
    (preferred : Preferred c facilities tolerance tables (.cached hit)) (member : t ∈ tables)
    (partly : hit.isComplete = false)
    : hit.database = t.database := by
  obtain ⟨only, single, target⟩ := preferred
  obtain rfl : t = only := by simpa [single] using member
  have open' : hit.fallback.isEmpty = false := partly
  simpa [Route.target, partly, open'] using target

/-- The place of a preferred route is in a database of the catalog, unless none is needed. -/
theorem Setting.Plannable.exists_engineFor (h : s.Plannable)
    (preferred : Preferred s.catalog s.facilities s.tolerance s.tables route)
    : ∃ engine, engineFor s.catalog route = .ok engine := by
  obtain ⟨t, member⟩ := List.exists_mem_of_ne_nil _ h.touched
  have declared := h.declared t member
  obtain ⟨home, atHome⟩ := Catalog.exists_database declared
  cases route with
  | cached hit =>
      cases complete : hit.isComplete with
      | true => exact ⟨none, by simp [engineFor, complete]⟩
      | false =>
          have there := database_of_partial preferred member complete
          exact ⟨some (dialectOf home.engine),
            by simp [engineFor, complete, databaseOf, there, atHome]⟩
  | direct database =>
      have there := preferred t member
      exact ⟨some (dialectOf home.engine), by simp [engineFor, databaseOf, ← there, atHome]⟩
  | materialized database =>
      obtain ⟨copy, listed, there, _⟩ := preferred.2.1 t member
      obtain ⟨d, found⟩ := Catalog.exists_database_of_copy declared listed
      exact ⟨some (dialectOf d.engine), by simp [engineFor, databaseOf, ← there, found]⟩
  | federated => exact ⟨some "trino", rfl⟩

/-- There is a plan for every preferred route. -/
theorem Setting.Plannable.exists_planFor (h : s.Plannable)
    (preferred : Preferred s.catalog s.facilities s.tolerance s.tables route)
    : ∃ p, planFor s route = .ok p := by
  obtain ⟨made, assigned⟩ := h.exists_assignments preferred
  obtain ⟨engine, addressed⟩ := h.exists_engineFor preferred
  exact ⟨_, planFor_eq_ok.mpr ⟨made, engine, assigned, addressed, rfl⟩⟩

-----------------------------------------------------------------------------------------
-- Planning that fails
-----------------------------------------------------------------------------------------

/-- Attempts that come to something come to a first route or to none, by induction on them. -/
theorem exists_firstRoute {attempts : List (Traced (Option Route))}
    (each : ∀ attempt ∈ attempts, ∃ found, attempt.result = .ok found)
    : ∃ found, (firstRoute attempts).result = .ok found := by
  induction attempts with
  | nil => exact ⟨none, rfl⟩
  | cons attempt rest ih =>
      obtain ⟨found, here⟩ := each attempt (List.mem_cons_self ..)
      have behind := ih fun other member => each other (List.mem_cons_of_mem _ member)
      simp only [firstRoute, Traced.result_bind, here, Outcome.ok_bind]
      cases found with
      | none => exact behind
      | some route => exact ⟨_, rfl⟩

theorem exists_direct (s : Setting) : ∃ found, (direct s).result = .ok found := by
  unfold direct
  split <;> exact ⟨_, rfl⟩

theorem exists_materialized (s : Setting) : ∃ found, (materialized s).result = .ok found := by
  unfold materialized
  split <;> exact ⟨_, rfl⟩

theorem exists_federated (s : Setting) : ∃ found, (federated s).result = .ok found := by
  unfold federated
  split <;> exact ⟨_, rfl⟩

/-- Whether a failure is that of tables which cannot be reached together. -/
def Unreached (failure : Failure) : Prop := ∃ tables, failure = .refused (.unreachable tables)

/-- All routes can be tried if the cache can be asked. -/
theorem exists_firstRoute_of_asked (asked : ∃ found, (throughCache s).result = .ok found)
    : ∃ found,
        (firstRoute [throughCache s, direct s, materialized s, federated s]).result
          = .ok found := by
  apply exists_firstRoute
  simp only [List.forall_mem_cons]
  exact ⟨asked, exists_direct s, exists_materialized s, exists_federated s, nofun⟩

/-- A route is not chosen only where none applies, if the cache can be asked. -/
theorem failsOnly_chooseRoute (asked : ∃ found, (throughCache s).result = .ok found)
    : Outcome.FailsOnly Unreached (chooseRoute s).result := by
  have tried := exists_firstRoute_of_asked asked
  simp only [chooseRoute, Traced.result_bind]
  refine (Outcome.failsOnly_of_exists tried).bind fun found _ => ?_
  cases found with
  | some route => exact Outcome.failsOnly_ok _
  | none =>
      simp only [Traced.result_bind, Traced.result_note, Traced.result_log, Outcome.ok_bind]
      exact Outcome.failsOnly_error ⟨_, rfl⟩

-----------------------------------------------------------------------------------------
-- Plans of granted queries
-----------------------------------------------------------------------------------------

variable {c : Catalog} {q : Query} {context : Context} {granted : ScopedQuery}
  {facilities : Facilities} {tolerance : Freshness} {p : Plan}

/-- Planning a granted query fails only where no route applies, if the cache can be asked. -/
theorem failsOnly_plan (allowed : Access.Granted c q context granted)
    (asked
      : ∃ found,
          (throughCache ⟨c, facilities, granted, c.touched q, context, tolerance⟩).result
            = .ok found)
    : Outcome.FailsOnly Unreached (plan c facilities granted context tolerance).result := by
  unfold plan
  rw [allowed.tablesOf_tableNames]
  simp only [Traced.result_bind, Traced.result_note, Outcome.ok_bind]
  refine (failsOnly_chooseRoute asked).bind fun route chosen => ?_
  have plannable := allowed.plannable facilities tolerance
  obtain ⟨p, made⟩ := plannable.exists_planFor (plannable.preferred_of_chooseRoute chosen)
  rw [made]
  exact Outcome.failsOnly_ok _

/-- A plan takes the preferred route for the tables that its query touches. -/
theorem preferred_of_plan (rights : Access.Granted c q context granted)
    (planned : (plan c facilities granted context tolerance).result = .ok p)
    : Preferred c facilities tolerance (c.touched q) p.route := by
  obtain ⟨tables, route, known, chosen, made⟩ := plan_eq_ok.mp planned
  rw [rights.tablesOf_tableNames, Except.ok.injEq] at known
  subst known
  obtain ⟨_, _, _, _, rfl⟩ := planFor_eq_ok.mp made
  exact (rights.plannable facilities tolerance).preferred_of_chooseRoute chosen

/-- Each table that a query touches is served as the route of the plan calls for, and named as it is
in the database of its copy.
-/
theorem served_of_plan (rights : Access.Granted c q context granted)
    (planned : (plan c facilities granted context tolerance).result = .ok p)
    : List.Forall₂
        (fun t e =>
          e.1 = t.apiName ∧ Serving c tolerance p.route t e.2 ∧ NamedIn c p.route e.2)
        (c.touched q) p.assignments := by
  have preferred := preferred_of_plan rights planned
  obtain ⟨tables, route, known, chosen, made⟩ := plan_eq_ok.mp planned
  rw [rights.tablesOf_tableNames, Except.ok.injEq] at known
  subst known
  obtain ⟨assigned, engine, hassigned, hengine, rfl⟩ := planFor_eq_ok.mp made
  have aligned := (List.forall₂_and_left _ _).mpr
    ⟨fun _ member => member, assignments_eq_ok.mp hassigned⟩
  refine aligned.imp ?_
  rintro t e ⟨member, name, copy, is, made⟩
  have serving := (rights.plannable facilities tolerance).serving preferred member is made
  obtain ⟨d, found, same⟩ := assign_eq_ok.mp made
  obtain rfl : e.2.copy = copy := by rw [← same, copy_assignmentIn]
  exact ⟨name, serving, d, found, same⟩

/-- A plan that takes the preferred route for exactly the tables that its query touches, each of
which is served as the route calls for. Whatever it is resolved to names the copies that serve the
tables, and a plan of a valid query that needs a statement is resolved to one.
-/
structure Sound (c : Catalog) (facilities : Facilities) (tolerance : Freshness) (q : Query)
    (p : Plan)
    : Prop where
  covers : p.assignments.keys = q.tableNames
  preferred : Preferred c facilities tolerance (c.touched q) p.route
  served
    : List.Forall₂
        (fun t e => e.1 = t.apiName ∧ Serving c tolerance p.route t e.2)
        (c.touched q) p.assignments
  named
    : ∀ statement,
        (Statement.resolve p).result = .ok statement → Statement.NamesCopies p statement
  resolved
    : Validation.issues c q = []
      → p.needsSql = true
      → ∃ statement, (Statement.resolve p).result = .ok statement

/-- Every plan of a query under access control is sound, whatever planning may use. -/
theorem sound_of_plan (allowed : (Access.apply c q context).result = .ok granted)
    (planned : (plan c facilities granted context tolerance).result = .ok p)
    : Sound c facilities tolerance q p := by
  have rights := Access.granted_of_apply allowed
  have served := served_of_plan rights planned
  constructor
  case covers =>
    rw [← rights.touched_names]
    apply Entries.keys_of_forall₂ (R := fun _ _ => True)
    rw [List.forall₂_map_left_iff]
    exact served.imp fun t e ⟨name, _⟩ => ⟨name, trivial⟩
  case preferred => exact preferred_of_plan rights planned
  case served => exact served.imp fun t e ⟨name, serving, _⟩ => ⟨name, serving⟩
  case named =>
    intro statement resolved
    exact (Statement.resolvesTo_of_resolve resolved).namesCopies
  case resolved =>
    intro valid needed
    obtain ⟨name, needed⟩ := Option.isSome_iff_exists.mp needed
    exact ⟨_, (Statement.resolvable_of_plan valid allowed planned).resolve_eq needed⟩

end Planning

namespace Sample

/-- Orders and their users are read together where the users are, from the copy of the orders. -/
theorem lake_orders_read_from_copy
    : ∃ s p,
        (Access.apply lakeCatalog query context).result = .ok s
        ∧ (Planning.plan lakeCatalog facilities s context .hours).result = .ok p
        ∧ (p.route.strategy, p.route.target) = ("materialized", "main")
        ∧ Planning.Sound lakeCatalog facilities .hours query p := by
  have taken
      : (do
          let s ← Access.apply lakeCatalog query context
          let p ← Planning.plan lakeCatalog facilities s context .hours
          return (p.route.strategy, p.route.target)).result
        = .ok ("materialized", "main") := by
    cbv
  simp only [Traced.result_bind, Outcome.bind_eq_ok] at taken
  obtain ⟨s, allowed, p, planned, route⟩ := taken
  exact ⟨s, p, allowed, planned, Except.ok.inj route, Planning.sound_of_plan allowed planned⟩

end Sample

end Polystore
