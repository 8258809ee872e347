import Polystore.Proofs.Service.Calls
import Polystore.Proofs.Service.Refusals
import Polystore.Proofs.Service.Rendering

/-! Where plans end. A plan ends at the cache, across databases, or in a declared database that
holds every copy that it assigns. The first two places have names of their own, which are told from
the id of the database exactly if that is neither of them.
-/

namespace Polystore

namespace Planning

-----------------------------------------------------------------------------------------
-- Where a plan can end
-----------------------------------------------------------------------------------------

/-- Whether an id is that of a declared database which holds all copies that a plan assigns. -/
structure HoldsCopies (c : Catalog) (p : Plan) (id : String) : Prop where
  declared : ∃ d ∈ c.document.databases, d.id = id
  assigned : ∀ e ∈ p.assignments, e.2.copy ∈ c.copies e.2.copy.table ∧ e.2.copy.database = id

/-- Where a plan ends: at the cache without SQL, and else across databases, or in the one that holds
all of its copies.
-/
inductive Ends (c : Catalog) (p : Plan) : Prop where
  | cache (needed : p.needsSql = false) (strategy : p.route.strategy = "cache")
      (target : p.route.target = "cache")
  | federated (needed : p.needsSql = true) (is : p.route = .federated)
  | database {id : String} (needed : p.needsSql = true) (there : place? p.route = some id)
      (target : p.route.target = id) (holds : HoldsCopies c p id)

/-- Whether the target of a plan says where it ends: that of the cache is for plans without SQL and
that of federation for those across databases, and any other is the database of all copies.
-/
structure Unambiguous (c : Catalog) (p : Plan) : Prop where
  cache : p.route.target = "cache" ↔ p.needsSql = false
  federated : p.route.target = "trino" ↔ p.route.strategy = "trino-cross-db"
  database
    : p.needsSql = true
      → p.route.strategy ≠ "trino-cross-db"
      → HoldsCopies c p p.route.target

variable {c : Catalog} {q : Query} {context : Context} {granted : ScopedQuery}
  {facilities : Facilities} {tolerance : Freshness} {p : Plan} {route : Route} {id : String}

/-- A route that runs in a single database is not the one across databases. -/
theorem strategy_of_place? (there : place? route = some id)
    : route.strategy ≠ "trino-cross-db" := by
  cases route with
  | federated => cases there
  | cached | direct | materialized => simp [Route.strategy]

/-- A route that runs in a single database ends there, unless the cache answers for everything. -/
theorem target_of_place? (there : place? route = some id)
    (partly : ∀ hit, route.hit? = some hit → hit.isComplete = false)
    : route.target = id := by
  cases route with
  | federated => cases there
  | cached hit =>
      cases there
      simp [Route.target, partly hit rfl]
  | direct | materialized =>
      cases there
      rfl

/-- What serves a table is a copy of it. -/
theorem mem_copies_of_serving {t : Table} {a : Assignment} (serving : Serving c tolerance route t a)
    : a.copy ∈ c.copies t := by
  cases route with
  | materialized => exact serving.1
  | federated =>
      rw [show a.copy = .home t from serving.1]
      exact c.home_mem_copies t
  | cached | direct =>
      rw [show a.copy = .home t from serving]
      exact c.home_mem_copies t

/-- The single database where the statement of a plan runs holds all copies that are assigned. -/
theorem holdsCopies_of_place? (rights : Access.Granted c q context granted)
    (planned : (plan c facilities granted context tolerance).result = .ok p)
    (partly : ∀ hit, p.route.hit? = some hit → hit.isComplete = false)
    (there : place? p.route = some id) (declared : ∃ d ∈ c.document.databases, d.id = id)
    : HoldsCopies c p id := by
  refine ⟨declared, fun e listed => ?_⟩
  have preferred := preferred_of_plan rights planned
  have aligned := (List.forall₂_and_left _ _).mpr
    ⟨fun _ member => member, served_of_plan rights planned⟩
  obtain ⟨t, _, member, _, serving, _⟩ := Outcome.exists_of_mem_found aligned listed
  have own := mem_copies_of_serving serving
  have table : e.2.copy.table = t := by
    rcases Catalog.mem_copies.mp own with same | ⟨s, _, _, same⟩ <;> rw [same] <;> rfl
  rw [table]
  exact ⟨own, database_of_serving preferred member serving partly there⟩

/-- Every plan of a granted query ends in one of these places. -/
theorem ends_of_plan (rights : Access.Granted c q context granted)
    (planned : (plan c facilities granted context tolerance).result = .ok p)
    : Ends c p := by
  have addressed := engineFor_of_plan planned
  cases needed : p.engine with
  | none =>
      obtain ⟨hit, taken, all⟩ := (eq_none_iff_complete addressed).mp needed
      have unneeded : p.needsSql = false := by rw [Plan.needsSql, needed]; rfl
      cases route : p.route with
      | cached found =>
          rw [route] at taken
          cases taken
          exact .cache unneeded (by rw [route]; rfl) (by simp [route, Route.target, all])
      | direct | materialized | federated =>
          rw [route] at taken
          cases taken
  | some engine =>
      have needs : p.needsSql = true := by rw [Plan.needsSql, needed]; rfl
      rw [needed] at addressed
      have partly := partly_of_engineFor addressed
      rcases engineFor_eq_some addressed with ⟨federated, _⟩ | ⟨id, d, there, found, _⟩
      · exact .federated needs federated
      · have declared : ∃ d ∈ c.document.databases, d.id = id :=
          ⟨d, List.mem_of_find?_eq_some found, by simpa using List.find?_some found⟩
        exact .database needs there (target_of_place? there partly)
          (holdsCopies_of_place? rights planned partly there declared)

/-- The target of a plan that ends somewhere is unambiguous exactly if the single database where it
ends, if there is one, does not go by the name of another place.
-/
theorem Ends.unambiguous_iff (ends : Ends c p)
    : Unambiguous c p
      ↔ ∀ id, p.needsSql = true → place? p.route = some id → id ≠ "cache" ∧ id ≠ "trino" := by
  cases ends with
  | cache needed strategy target =>
      refine iff_of_true ⟨iff_of_true target needed, ?_, fun needs => ?_⟩ fun _ needs => ?_
      · simp [target, strategy]
      · cases needed.symm.trans needs
      · cases needed.symm.trans needs
  | federated needed is =>
      refine iff_of_true ⟨?_, ?_, fun _ other => ?_⟩ fun _ _ there => ?_
      · simp [is, Route.target, needed]
      · simp [is, Route.target, Route.strategy]
      · exact absurd (by rw [is]; rfl) other
      · rw [is] at there
        cases there
  | @database id needed there target holds =>
      have alone := strategy_of_place? there
      constructor
      · intro clear other _ there'
        obtain rfl : id = other := Option.some.inj (there.symm.trans there')
        constructor
        · rintro rfl
          cases needed.symm.trans (clear.cache.mp target)
        · rintro rfl
          exact alone (clear.federated.mp target)
      · intro apart
        obtain ⟨notCache, notFederated⟩ := apart id needed there
        refine ⟨?_, ?_, fun _ _ => target ▸ holds⟩
        · simp [target, notCache, needed]
        · simp [target, notFederated, alone]

end Planning

namespace Service

variable {s : Service} {q : Query} {context : Context} {granted : ScopedQuery}
  {tolerance : Freshness} {p : Plan} {written : Option (Statement String × Compiled)}

/-- What is written for a plan is nothing exactly if the plan needs no SQL, and it runs where the
route of the plan ends.
-/
structure WritesFor (p : Plan) (written : Option (Statement String × Compiled)) : Prop where
  needed : written = none ↔ p.needsSql = false
  target
    : ∀ statement compiled, written = some (statement, compiled) → compiled.target = p.route.target

theorem writesFor (resolvable : Statement.Resolvable s.catalog q context p)
    (made : s.written p = .ok written)
    : WritesFor p written := by
  refine ⟨⟨?_, fun unneeded => ?_⟩, fun statement compiled is => ?_⟩
  · rintro rfl
    by_contra needed
    rw [Service.written, if_pos (Bool.eq_true_of_not_eq_false needed)] at made
    obtain ⟨statement, _, made⟩ := Outcome.bind_eq_ok.mp made
    obtain ⟨compiled, _, made⟩ := Outcome.bind_eq_ok.mp made
    cases made
  · rw [Service.written, unneeded] at made
    exact (Except.ok.inj made).symm
  · exact target_of_written resolvable (is ▸ made)

/-- Every planned query ends at the cache, which takes no SQL, across databases, or in a declared
database that holds all assigned copies; its SQL runs there, if it has any. Its target tells these
apart exactly if the single database where it ends is called neither cache nor trino.
-/
theorem target_unambiguous_iff (valid : Validation.issues s.catalog q = [])
    (allowed : (Access.apply s.catalog q context).result = .ok granted)
    (planned : (Planning.plan s.catalog s.facilities granted context tolerance).result = .ok p)
    : Planning.Ends s.catalog p
      ∧ (∀ written, s.written p = .ok written → WritesFor p written)
      ∧ (Planning.Unambiguous s.catalog p
        ↔ ∀ id,
            p.needsSql = true
            → Planning.place? p.route = some id
            → id ≠ "cache" ∧ id ≠ "trino") :=
  have ends := Planning.ends_of_plan (Access.granted_of_apply allowed) planned
  ⟨ends, fun _ => writesFor (Statement.resolvable_of_plan valid allowed planned),
    ends.unambiguous_iff⟩

end Service

-----------------------------------------------------------------------------------------
-- A database that goes by the name of federation
-----------------------------------------------------------------------------------------

namespace Sample

/-- Orders and their users end where the users are, and the target says so. -/
theorem lake_users_target
    : ∃ s p,
        Validation.issues lakeService.catalog query = []
        ∧ (Access.apply lakeService.catalog query context).result = .ok s
        ∧ (Planning.plan lakeService.catalog lakeService.facilities s context .hours).result = .ok p
        ∧ p.route.target = "main"
        ∧ Planning.Unambiguous lakeService.catalog p := by
  have taken
      : (do
          let s ← Access.apply lakeService.catalog query context
          let p ← Planning.plan lakeService.catalog lakeService.facilities s context .hours
          return (Planning.place? p.route, p.route.target)).result
        = .ok (some "main", "main") := by
    cbv
  simp only [Traced.result_bind, Outcome.bind_eq_ok] at taken
  obtain ⟨s, allowed, p, planned, same⟩ := taken
  simp only [Traced.result_pure, Except.ok.injEq, Prod.mk.injEq] at same
  obtain ⟨there, target⟩ := same
  have valid : Validation.issues lakeService.catalog query = [] := by cbv
  obtain ⟨_, _, unambiguous⟩ := Service.target_unambiguous_iff valid allowed planned
  refine ⟨s, p, valid, allowed, planned, target, unambiguous.mpr fun id _ found => ?_⟩
  obtain rfl : id = "main" := Option.some.inj (found.symm.trans there)
  decide

/-- Users and orders at home in a database that is called as the target of federated statements. -/
def namesakeDocument : Document := {
  document with
  databases := [⟨"trino", .postgres, none, none⟩]
  tables := [{ users with database := "trino" }, { orders with database := "trino" }] }

theorem namesakeDocument_intact : namesakeDocument.Intact := by decide +kernel

def namesakeCatalog : Catalog := ⟨namesakeDocument, namesakeDocument_intact⟩

/-- Orders are read directly from a database, with the target of a federated statement. -/
theorem namesake_target_ambiguous
    : ∃ s p,
        Validation.issues namesakeCatalog ordersQuery = []
        ∧ (Access.apply namesakeCatalog ordersQuery context).result = .ok s
        ∧ (Planning.plan namesakeCatalog facilities s context .hours).result = .ok p
        ∧ (p.engine, p.route.strategy, p.route.target) = (some "postgres", "direct", "trino")
        ∧ ¬ Planning.Unambiguous namesakeCatalog p := by
  have taken
      : (do
          let s ← Access.apply namesakeCatalog ordersQuery context
          let p ← Planning.plan namesakeCatalog facilities s context .hours
          return (p.engine, p.route.strategy, p.route.target)).result
        = .ok (some "postgres", "direct", "trino") := by
    cbv
  simp only [Traced.result_bind, Outcome.bind_eq_ok] at taken
  obtain ⟨s, allowed, p, planned, same⟩ := taken
  rw [Traced.result_pure, Except.ok.injEq] at same
  refine ⟨s, p, by cbv, allowed, planned, same, fun clear => ?_⟩
  simp only [Prod.mk.injEq] at same
  obtain ⟨_, strategy, target⟩ := same
  have federated := clear.federated.mp target
  rw [strategy] at federated
  exact absurd federated (by decide)

end Sample

end Polystore
