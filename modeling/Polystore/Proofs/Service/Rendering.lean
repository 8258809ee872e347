import Polystore.Proofs.Planning.Assignments
import Polystore.Proofs.Planning.CacheReads
import Polystore.Proofs.Planning.Dialects
import Polystore.Proofs.Service.Writing

/-! Rendering plans. A plan made without a cache has SQL in its own dialect exactly if its query
selects something, its aggregates have the columns they need, the single database that its
statement may run in can be addressed, as a lake that has no catalog cannot, and its pages are of
numbers that can be written.
-/

namespace Polystore

open Outcome

namespace Planning

variable {c : Catalog} {q : Query} {context : Context} {granted : ScopedQuery}
  {facilities : Facilities} {tolerance : Freshness} {p : Plan} {engine : String} {d : Dialect}

-----------------------------------------------------------------------------------------
-- The databases of a plan
-----------------------------------------------------------------------------------------

/-- A plan that takes no hit needs a statement, in the dialect of its route. -/
theorem exists_engine_of_past (past : p.route.hit? = none)
    (planned : (plan c facilities granted context tolerance).result = .ok p)
    : ∃ engine, p.engine = some engine ∧ engineFor c p.route = .ok (some engine) := by
  have addressed := engineFor_of_plan planned
  obtain ⟨engine, needed⟩ := exists_engine_of_hit?_eq_none addressed past
  exact ⟨engine, needed, needed ▸ addressed⟩

/-- The copy that serves a table on a route that runs in a single database is there, unless the
cache answers for everything.
-/
theorem database_of_serving {tables : List Table} {route : Route} {t : Table} {a : Assignment}
    (preferred : Preferred c facilities tolerance tables route) (member : t ∈ tables)
    (serving : Serving c tolerance route t a)
    (partly : ∀ hit, route.hit? = some hit → hit.isComplete = false) {database : String}
    (there : place? route = some database)
    : a.copy.database = database := by
  cases route with
  | cached hit =>
      cases there
      rw [show a.copy = .home t from serving]
      exact (database_of_partial preferred member (partly hit rfl)).symm
  | direct home =>
      cases there
      rw [show a.copy = .home t from serving]
      exact preferred t member
  | materialized other =>
      cases there
      exact serving.2.1
  | federated => cases there

/-- Each table that a planned query touches is assigned a copy that serves it. -/
theorem exists_assignment (rights : Access.Granted c q context granted)
    (planned : (plan c facilities granted context tolerance).result = .ok p) {name : String}
    (touched : name ∈ q.tableNames)
    : ∃ t ∈ c.touched q, ∃ a,
        p.assignments.lookup name = some a
        ∧ Serving c tolerance p.route t a
        ∧ NamedIn c p.route a :=
  Entries.exists_lookup_of_forall₂ (served_of_plan rights planned) (rights.touched_names ▸ touched)

-----------------------------------------------------------------------------------------
-- Catalogs of tables
-----------------------------------------------------------------------------------------

/-- A table has a catalog where its assignment names one. -/
theorem hasCatalog_tableNamed {name : String} {a : Assignment}
    (assigned : p.assignments.lookup name = some a)
    : (Statement.tableNamed p name).HasCatalog
      ↔ ∃ catalog, a.catalog = some catalog ∧ catalog ≠ "" := by
  simp only [Statement.TableName.HasCatalog, Statement.tableNamed, assigned]

/-- A table in a lake has a catalog where the lake has one. -/
theorem exists_catalog_in_lake {home : Database} (lake : home.engine = .iceberg) {a : Assignment}
    {qualified : Bool} (named : assignmentIn home qualified a.copy = a)
    : (∃ catalog, a.catalog = some catalog ∧ catalog ≠ "") ↔ home.hasCatalog = true := by
  have same : a.catalog = home.catalog := by
    rw [← named]
    simp [assignmentIn, lake]
  rw [same]
  simp [Database.hasCatalog, Option.any_eq_true]

/-- Whether the single database that the statement of a plan may run in can be addressed, as a lake
without a catalog cannot.
-/
def Addressed (c : Catalog) (p : Plan) : Prop :=
  ∀ database d,
    place? p.route = some database
    → c.database? database = some d
    → d.engine = .iceberg
    → d.hasCatalog = true

/-- What it takes for a planned query to be rendered: it selects something, none of its aggregates
but those that count are of the empty reference, the database of its plan can be addressed, and its
pages are of numbers that can be written.
-/
structure Renderable (c : Catalog) (q : Query) (p : Plan) : Prop where
  selects : q.mode = .count ∨ q.isAggregate = true ∨ p.granted.selection ≠ []
  columned : ∀ a ∈ q.aggregations, a.column = some "" → a.fn = .count
  addressed : Addressed c p
  pages : q.PagesFit

/-- Where the dialect of a plan wants catalogs, all tables have one exactly where the database of
the plan can be addressed. Homes that are federated all have one.
-/
theorem hasCatalogs_iff_addressed (rights : Access.Granted c q context granted)
    (planned : (plan c facilities granted context tolerance).result = .ok p)
    (addressed : engineFor c p.route = .ok (some engine))
    (known : Dialects.standard.find (.text engine) = .ok d)
    : (d.qualified = true → ∀ name ∈ q.tableNames, (Statement.tableNamed p name).HasCatalog)
      ↔ Addressed c p := by
  have partly := partly_of_engineFor addressed
  have preferred := preferred_of_plan rights planned
  rcases engineFor_eq_some addressed with ⟨federated, rfl⟩ | ⟨database, home, there, found, rfl⟩
  · refine iff_of_true (fun _ name touched => ?_) fun database home there => ?_
    · obtain ⟨t, _, a, assigned, serving, _⟩ := exists_assignment rights planned touched
      rw [federated] at serving
      obtain ⟨_, catalog, ⟨some, _⟩, named⟩ := serving
      exact (hasCatalog_tableNamed assigned).mpr ⟨catalog, named, some⟩
    · rw [federated] at there
      cases there
  · have inLake (lake : home.engine = .iceberg) (name : String) (touched : name ∈ q.tableNames)
        : (Statement.tableNamed p name).HasCatalog ↔ home.hasCatalog = true := by
      obtain ⟨t, member, a, assigned, serving, other, found', named⟩ :=
        exists_assignment rights planned touched
      rw [database_of_serving preferred member serving partly there] at found'
      obtain rfl : home = other := Option.some.inj (found.symm.trans found')
      rw [hasCatalog_tableNamed assigned, exists_catalog_in_lake lake named]
    rw [Dialects.qualified_iff known]
    constructor
    · intro catalogs database' home' there' found' lake
      obtain rfl : database = database' := Option.some.inj (there.symm.trans there')
      obtain rfl : home = home' := Option.some.inj (found.symm.trans found')
      obtain ⟨name, touched⟩ := List.exists_mem_of_ne_nil _ q.tableNames_ne_nil
      exact (inLake lake name touched).mp (catalogs lake name touched)
    · intro has lake name touched
      exact (inLake lake name touched).mpr (has database home there found lake)

-----------------------------------------------------------------------------------------
-- Rendering
-----------------------------------------------------------------------------------------

/-- The SQL of the statement of a plan, in the standard dialect that the plan names. -/
def rendering (p : Plan) : Except Failure Compiled := do
  let statement ← (Statement.resolve p).result
  let d ← Dialects.standard.find (.text statement.engine)
  (Compiled.generate d statement).result

/-- A resolvable plan is rendered exactly where its statement lacks nothing and the pages of its
query fit.
-/
theorem rendering_iff_lacks_nothing (h : Statement.Resolvable c q context p)
    (valid : Validation.issues c q = []) (needed : p.engine = some engine)
    (known : Dialects.standard.find (.text engine) = .ok d)
    : (∃ compiled, rendering p = .ok compiled)
      ↔ (∀ what, ¬ Statement.Lacks d (Statement.named c p engine) what) ∧ q.PagesFit := by
  rw [← @Statement.Resolvable.pagesFit_named c q context p engine h,
    ← Sql.exists_clauses_iff (h.spoken_named valid needed), ← Compiled.exists_ofStatement_iff]
  have rendered : rendering p = (Compiled.generate d (Statement.named c p engine)).result := by
    rw [rendering, h.resolve_eq needed, Outcome.ok_bind]
    exact congrArg (· >>= fun d => (Compiled.generate d (Statement.named c p engine)).result) known
  rw [rendered, Compiled.result_generate]

/-- A plan that is made without a cache is rendered exactly where it is renderable. -/
theorem rendering_iff_renderable (valid : Validation.issues c q = [])
    (allowed : (Access.apply c q context).result = .ok granted)
    (uncached : facilities.cache = none)
    (planned : (plan c facilities granted context tolerance).result = .ok p)
    : (∃ compiled, rendering p = .ok compiled) ↔ Renderable c q p := by
  have resolvable := Statement.resolvable_of_plan valid allowed planned
  obtain ⟨engine, needed, addressed⟩ :=
    exists_engine_of_past (hit?_of_uncached uncached planned) planned
  obtain ⟨d, known⟩ := exists_find Dialects.complete_standard addressed
  have catalogs := hasCatalogs_iff_addressed (Access.granted_of_apply allowed) planned
    addressed known
  rw [rendering_iff_lacks_nothing resolvable valid needed known]
  constructor
  · rintro ⟨nothing, fit⟩
    have none (what : Inexpressible) : ¬ Statement.LacksFor d q p what :=
      fun lacks => nothing what (resolvable.lacks_of_lacksFor valid lacks)
    constructor
    case selects =>
      by_contra neither
      simp only [not_or, not_not, Bool.not_eq_true] at neither
      exact none _ (.noColumns neither.1 neither.2.1 neither.2.2)
    case columned =>
      intro a listed empty
      by_contra other
      exact none _ (.aggregateWithoutColumn listed empty other)
    case addressed =>
      refine catalogs.mp fun qualified name touched => ?_
      by_contra lacking
      exact none _ (.noCatalog qualified touched lacking)
    case pages => exact fit
  · intro h
    refine ⟨fun what lacks => ?_, h.pages⟩
    cases resolvable.lacksFor_of_lacks valid lacks with
    | noColumns rows plain nothing =>
        rcases h.selects with counts | aggregates | selected
        · exact rows counts
        · cases plain.symm.trans aggregates
        · exact selected nothing
    | aggregateWithoutColumn listed empty other => exact other (h.columned _ listed empty)
    | noCatalog qualified touched lacking =>
        exact lacking (catalogs.mpr h.addressed qualified _ touched)

end Planning

namespace Sample

/-- Orders on their own are to be read in the lake, although it has no catalog to name them with
and the copy in the other database could be read.
-/
theorem lake_orders_not_rendered
    : ∃ s p,
        Validation.issues lakeCatalog ordersQuery = []
        ∧ (Access.apply lakeCatalog ordersQuery context).result = .ok s
        ∧ s.selection ≠ []
        ∧ facilities.cache = none
        ∧ (Planning.plan lakeCatalog facilities s context .hours).result = .ok p
        ∧ (p.route.strategy, p.route.target) = ("direct", "lake")
        ∧ lakeCatalog.Serves .hours (lakeCatalog.touched ordersQuery) "main"
        ∧ Planning.rendering p = .error (.refused (.inexpressible (.noCatalog "orders"))) := by
  have taken
      : (do
          let s ← Access.apply lakeCatalog ordersQuery context
          let p ← Planning.plan lakeCatalog facilities s context .hours
          return (s.selection.length, p.route.strategy, p.route.target,
            (Planning.rendering p).map Compiled.target)).result
        = .ok (1, "direct", "lake", .error (.refused (.inexpressible (.noCatalog "orders")))) := by
    cbv
  simp only [Traced.result_bind, Outcome.bind_eq_ok] at taken
  obtain ⟨s, allowed, p, planned, same⟩ := taken
  simp only [Traced.result_pure, Except.ok.injEq, Prod.mk.injEq] at same
  obtain ⟨one, strategy, target, failed⟩ := same
  have selected : s.selection ≠ [] := List.ne_nil_of_length_eq_add_one one
  have valid : Validation.issues lakeCatalog ordersQuery = [] := by cbv
  have served : lakeCatalog.Serves .hours (lakeCatalog.touched ordersQuery) "main" := by
    intro t member
    obtain rfl : t = { orders with database := "lake" } := List.mem_singleton.mp member
    exact ⟨_, List.mem_cons_of_mem _ (List.mem_cons_self ..), rfl, rfl⟩
  refine ⟨s, p, valid, allowed, selected, rfl, planned, by rw [strategy, target], served, ?_⟩
  cases rendered : Planning.rendering p with
  | ok compiled =>
      rw [rendered] at failed
      cases failed
  | error failure =>
      rw [rendered] at failed
      cases failed
      rfl

/-- Orders and their users are rendered, as they are read where the users are. -/
theorem lake_users_rendered
    : ∃ s p,
        Validation.issues lakeCatalog query = []
        ∧ (Access.apply lakeCatalog query context).result = .ok s
        ∧ facilities.cache = none
        ∧ (Planning.plan lakeCatalog facilities s context .hours).result = .ok p
        ∧ (∃ compiled, Planning.rendering p = .ok compiled)
        ∧ Planning.Renderable lakeCatalog query p := by
  have taken
      : (do
          let s ← Access.apply lakeCatalog query context
          let p ← Planning.plan lakeCatalog facilities s context .hours
          return (Planning.rendering p).map Compiled.target).result
        = .ok (.ok "main") := by
    cbv
  simp only [Traced.result_bind, Outcome.bind_eq_ok] at taken
  obtain ⟨s, allowed, p, planned, target⟩ := taken
  obtain ⟨compiled, rendered, _⟩ := Outcome.map_eq_ok.mp (Except.ok.inj target)
  have valid : Validation.issues lakeCatalog query = [] := by cbv
  exact ⟨s, p, valid, allowed, rfl, planned, ⟨compiled, rendered⟩,
    (Planning.rendering_iff_renderable valid allowed rfl planned).mp ⟨compiled, rendered⟩⟩

end Sample

end Polystore
