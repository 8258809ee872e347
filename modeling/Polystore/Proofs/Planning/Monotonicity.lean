import Polystore.Proofs.Planning.Agreement
import Polystore.Proofs.Planning.Unreachable

/-! Planning when more becomes possible. What can be planned can still be planned when replicas may
lag further behind, when federation is enabled, and when a table is copied to one more database. The
home of all tables stays the place of a plan; otherwise a database with copies stays one, and as
many of the tables or more are then read at home.
-/

namespace Polystore

/-- How many tables are served from their home copies. -/
def Plan.originals (p : Plan) : Nat := p.assignments.countP fun e => e.2.copy.isHome

-----------------------------------------------------------------------------------------
-- One more sync
-----------------------------------------------------------------------------------------

namespace Catalog

/-- Whether the document of a catalog has one more sync than that of another, at any place. -/
def Grows (c larger : Catalog) : Prop :=
  ∃ before added after,
    c.document.syncs = before ++ after
    ∧ larger.document = { c.document with syncs := before ++ added :: after }

variable {c larger : Catalog}

/-- A sync changes nothing but where copies are. -/
theorem Grows.alike (h : c.Grows larger) : c.Alike larger := by
  obtain ⟨before, added, after, _, grown⟩ := h
  constructor
  case tables => exact fun name => by simp only [table?, Catalog.tables, grown]
  case databases => exact fun id => by simp only [database?, grown]
  case rules => exact fun role t => by simp only [rule?, grown]

/-- With one more sync no copy of a table is lost. -/
theorem Grows.mem_copies (h : c.Grows larger) {t : Table} {copy : Copy}
    (member : copy ∈ c.copies t)
    : copy ∈ larger.copies t := by
  obtain ⟨before, added, after, syncs, grown⟩ := h
  rw [Catalog.mem_copies] at member ⊢
  refine member.imp id ?_
  rintro ⟨s, listed, source, rfl⟩
  refine ⟨s, ?_, source, rfl⟩
  rw [syncs, List.mem_append] at listed
  rw [grown, List.mem_append]
  exact listed.imp id (List.mem_cons_of_mem _)

end Catalog

namespace Planning

-----------------------------------------------------------------------------------------
-- Conditions that are no harder
-----------------------------------------------------------------------------------------

/-- Whether some conditions of planning leave possible what is possible under others: the same
databases serve all of some tables, and the same homes are federated.
-/
structure Eases (c : Catalog) (facilities : Facilities) (tolerance : Freshness) (larger : Catalog)
    (wider : Facilities) (looser : Freshness) (tables : List Table)
    : Prop where
  alike : c.Alike larger
  serves : ∀ database, c.Serves tolerance tables database → larger.Serves looser tables database
  federation : facilities.federation = true → wider.federation = true
  cache : facilities.cache = wider.cache

variable {c larger : Catalog} {q : Query} {context : Context} {granted : ScopedQuery}
  {facilities wider : Facilities} {tolerance looser : Freshness} {tables : List Table}
  {database : String} {p other : Plan}

/-- A copy that is fresh enough is so where replicas may lag further behind. -/
theorem eases_of_looser (weaker : tolerance.rank ≤ looser.rank)
    : Eases c facilities tolerance c facilities looser tables := by
  refine ⟨⟨fun _ => rfl, fun _ => rfl, fun _ _ => rfl⟩, ?_, id, rfl⟩
  intro database serves t member
  obtain ⟨copy, listed, there, fresh⟩ := serves t member
  refine ⟨copy, listed, there, ?_⟩
  cases copy with
  | home t => rfl
  | replica t s =>
      have within : s.estimatedLag.rank ≤ tolerance.rank := by
        simpa [Copy.satisfies, Copy.lag?, Freshness.satisfies] using fresh
      simpa [Copy.satisfies, Copy.lag?, Freshness.satisfies] using within.trans weaker

theorem eases_of_federation
    : Eases c facilities tolerance c { facilities with federation := true } tolerance tables :=
  ⟨⟨fun _ => rfl, fun _ => rfl, fun _ _ => rfl⟩, fun _ serves => serves, fun _ => rfl, rfl⟩

theorem eases_of_grows (grows : c.Grows larger)
    : Eases c facilities tolerance larger facilities tolerance tables := by
  refine ⟨grows.alike, ?_, id, rfl⟩
  intro database serves t member
  obtain ⟨copy, listed, there, fresh⟩ := serves t member
  exact ⟨copy, grows.mem_copies listed, there, fresh⟩

/-- What is federated under some conditions is federated where they are eased. -/
theorem Eases.federates (h : Eases c facilities tolerance larger wider looser tables) {t : Table}
    {catalog : String} (reached : c.Federates t catalog)
    : larger.Federates t catalog := by
  obtain ⟨some, d, found, named⟩ := reached
  exact ⟨some, d, (h.alike.databases _).trans found, named⟩

/-- Tables that are blocked where conditions are eased are blocked before. -/
theorem Eases.blocked (h : Eases c facilities tolerance larger wider looser tables)
    (blocked : Blocked larger wider looser tables)
    : Blocked c facilities tolerance tables := by
  constructor
  case apart => exact blocked.apart
  case unserved =>
    rintro ⟨database, serves⟩
    exact blocked.unserved ⟨database, h.serves database serves⟩
  case unfederated =>
    rcases blocked.unfederated with disabled | ⟨t, member, without⟩
    · refine .inl (Bool.eq_false_iff.mpr fun enabled => ?_)
      rw [h.federation enabled] at disabled
      cases disabled
    · refine .inr ⟨t, member, ?_⟩
      rintro ⟨catalog, reached⟩
      exact without ⟨catalog, h.federates reached⟩

-----------------------------------------------------------------------------------------
-- The route and the parts of a plan
-----------------------------------------------------------------------------------------

/-- A plan consists of its route and what that assigns. -/
theorem parts_of_plan (rights : Access.Granted c q context granted)
    (planned : (plan c facilities granted context tolerance).result = .ok p)
    : assignments c p.route (c.touched q) = .ok p.assignments
      ∧ engineFor c p.route = .ok p.engine
      ∧ p
        = ⟨p.route, p.engine, p.assignments, granted, tolerance,
            idsFor p.route granted.query⟩ := by
  obtain ⟨tables, route, known, _, made⟩ := plan_eq_ok.mp planned
  rw [rights.tablesOf_tableNames, Except.ok.injEq] at known
  subst known
  obtain ⟨assigned, engine, hassigned, hengine, rfl⟩ := planFor_eq_ok.mp made
  exact ⟨hassigned, hengine, rfl⟩

/-- A granted query is planned without a cache unless its tables are blocked. -/
theorem exists_plan_iff (rights : Access.Granted c q context granted)
    (uncached : facilities.cache = none)
    : (∃ p, (plan c facilities granted context tolerance).result = .ok p)
      ↔ ¬ Blocked c facilities tolerance (c.touched q) := by
  cases planned : (plan c facilities granted context tolerance).result with
  | ok p =>
      refine iff_of_true ⟨p, rfl⟩ fun blocked => ?_
      have failed := (plan_eq_error rights uncached).mpr ⟨blocked, rfl⟩
      rw [planned] at failed
      cases failed
  | error failure =>
      have blocked := ((plan_eq_error rights uncached).mp planned).1
      exact iff_of_false (by simp) (not_not_intro blocked)

/-- A database that is home to tables serves them, however little replicas may lag behind. -/
theorem serves_of_home (home : ∀ t ∈ tables, t.database = database)
    : c.Serves tolerance tables database :=
  fun t member => ⟨.home t, c.home_mem_copies t, home t member, rfl⟩

/-- A preferred route past the cache leads to the home of the tables if they have one. -/
theorem Preferred.eq_direct {route : Route}
    (preferred : Preferred c facilities tolerance tables route) (past : route.hit? = none)
    (touched : tables ≠ []) (home : ∀ t ∈ tables, t.database = database)
    : route = .direct database := by
  cases route with
  | cached hit => cases past
  | direct there =>
      obtain ⟨t, member⟩ := List.exists_mem_of_ne_nil _ touched
      rw [← preferred t member, home t member]
  | materialized there => exact absurd ⟨database, home⟩ preferred.1
  | federated => exact absurd ⟨database, serves_of_home home⟩ preferred.1

/-- A preferred route past the cache leads to a database with copies where the tables have no home
and some database serves them. No such database is home to more of them.
-/
theorem Preferred.eq_materialized {route : Route}
    (preferred : Preferred c facilities tolerance tables route) (past : route.hit? = none)
    (apart : ¬ ∃ home, ∀ t ∈ tables, t.database = home)
    (serves : c.Serves tolerance tables database)
    : ∃ best,
        route = .materialized best
        ∧ originalsIn tables database ≤ originalsIn tables best
        ∧ (originalsIn tables database = originalsIn tables best → best ≤ database) := by
  cases route with
  | cached hit => cases past
  | direct there => exact absurd ⟨there, preferred⟩ apart
  | materialized there => exact ⟨there, rfl, preferred.2.2 database serves⟩
  | federated => exact absurd ⟨database, serves⟩ preferred.1

/-- The tables of a plan that reads copies in one database are served from home where it is their
home.
-/
theorem originals_of_plan (rights : Access.Granted c q context granted)
    (planned : (plan c facilities granted context tolerance).result = .ok p)
    (route : p.route = .materialized database)
    : p.originals = originalsIn (c.touched q) database := by
  have served := served_of_plan rights planned
  rw [route] at served
  have aligned := (List.forall₂_and_left _ _).mpr ⟨fun _ member => member, served⟩
  have same
      : List.Forall₂ (fun t e => (t.database == database) = e.2.copy.isHome)
          (c.touched q) p.assignments := by
    refine aligned.imp ?_
    rintro t e ⟨member, _, ⟨listed, there, _⟩, _⟩
    have declared := Catalog.mem_tables_of_touched member
    have found := (Catalog.copyIn?_eq_some_iff declared).mpr ⟨listed, there⟩
    rw [← Catalog.isHome_copyIn? (c := c), found]
    rfl
  have marks : (c.touched q).map (fun t => t.database == database)
      = p.assignments.map fun e => e.2.copy.isHome := by
    rw [← List.forall₂_eq_eq_eq, List.forall₂_map_left_iff, List.forall₂_map_right_iff]
    exact same
  have counted := congrArg (List.countP id) marks
  rw [List.countP_map, List.countP_map] at counted
  exact counted.symm

-----------------------------------------------------------------------------------------
-- Plans under eased conditions
-----------------------------------------------------------------------------------------

/-- Whether a plan keeps what another one has achieved: the home of all tables with everything that
is assigned there, or a database with copies of them, where as many or more are read at home.
-/
structure Keeps (p other : Plan) : Prop where
  direct
    : ∀ database,
        p.route = .direct database
        → other.route = .direct database
          ∧ other.engine = p.engine
          ∧ other.assignments = p.assignments
  materialized
    : ∀ database,
        p.route = .materialized database
        → ∃ best, other.route = .materialized best ∧ p.originals ≤ other.originals

/-- A plan under eased conditions keeps what was achieved before. -/
theorem Eases.keeps (h : Eases c facilities tolerance larger wider looser (c.touched q))
    (rights : Access.Granted c q context granted)
    (rights' : Access.Granted larger q context granted) (uncached : facilities.cache = none)
    (planned : (plan c facilities granted context tolerance).result = .ok p)
    (planned' : (plan larger wider granted context looser).result = .ok other)
    : Keeps p other := by
  have preferred := preferred_of_plan rights planned
  have preferred' := preferred_of_plan rights' planned'
  have past' := hit?_of_uncached (h.cache.symm.trans uncached) planned'
  rw [h.alike.touched_eq] at preferred'
  constructor
  case direct =>
    intro database direct
    rw [direct] at preferred
    have stays := preferred'.eq_direct past' rights.touched_ne_nil preferred
    obtain ⟨assigned, addressed, _⟩ := parts_of_plan rights planned
    obtain ⟨assigned', addressed', _⟩ := parts_of_plan rights' planned'
    rw [stays, h.alike.engineFor_eq, ← direct, addressed, Except.ok.injEq] at addressed'
    rw [stays, h.alike.touched_eq, h.alike.assignments_eq fun _ => rfl, ← direct, assigned,
      Except.ok.injEq] at assigned'
    exact ⟨stays, addressed'.symm, assigned'.symm⟩
  case materialized =>
    intro database copied
    rw [copied] at preferred
    obtain ⟨best, stays, more, _⟩ :=
      preferred'.eq_materialized past' preferred.1 (h.serves database preferred.2.1)
    refine ⟨best, stays, ?_⟩
    rw [originals_of_plan rights planned copied, originals_of_plan rights' planned' stays,
      h.alike.touched_eq]
    exact more

/-- Under eased conditions a granted query is still planned, with what was achieved before. -/
theorem Eases.exists_keeps (h : Eases c facilities tolerance larger wider looser (c.touched q))
    (rights : Access.Granted c q context granted)
    (rights' : Access.Granted larger q context granted) (uncached : facilities.cache = none)
    (planned : (plan c facilities granted context tolerance).result = .ok p)
    : ∃ other, (plan larger wider granted context looser).result = .ok other ∧ Keeps p other := by
  have free := (exists_plan_iff rights uncached).mp ⟨p, planned⟩
  have open' : ¬ Blocked larger wider looser (larger.touched q) := by
    rw [h.alike.touched_eq]
    exact fun blocked => free (h.blocked blocked)
  obtain ⟨other, planned'⟩ :=
    (exists_plan_iff rights' (h.cache.symm.trans uncached)).mpr open'
  exact ⟨other, planned', h.keeps rights rights' uncached planned planned'⟩

/-- Enabling federation does not change the route of a plan. -/
theorem route_of_federating (rights : Access.Granted c q context granted)
    (uncached : facilities.cache = none)
    (planned : (plan c facilities granted context tolerance).result = .ok p)
    (planned'
      : (plan c { facilities with federation := true } granted context tolerance).result
        = .ok other)
    : other.route = p.route := by
  have preferred := preferred_of_plan rights planned
  have preferred' := preferred_of_plan rights planned'
  have past := hit?_of_uncached uncached planned
  have uncached' : { facilities with federation := true }.cache = none := uncached
  have past' := hit?_of_uncached uncached' planned'
  cases route : p.route with
  | cached hit =>
      rw [route] at past
      cases past
  | direct database =>
      rw [route] at preferred
      exact preferred'.eq_direct past' rights.touched_ne_nil preferred
  | materialized database =>
      rw [route] at preferred
      obtain ⟨best, stays, more, first⟩ :=
        preferred'.eq_materialized past' preferred.1 preferred.2.1
      rw [stays] at preferred'
      obtain ⟨fewer, first'⟩ := preferred.2.2 best preferred'.2.1
      have even := Nat.le_antisymm more fewer
      rw [stays, String.le_antisymm (first even) (first' even.symm)]
  | federated =>
      rw [route] at preferred
      cases route' : other.route with
      | cached hit =>
          rw [route'] at past'
          cases past'
      | direct database =>
          rw [route'] at preferred'
          exact absurd ⟨database, serves_of_home preferred'⟩ preferred.1
      | materialized database =>
          rw [route'] at preferred'
          exact absurd ⟨database, preferred'.2.1⟩ preferred.1
      | federated => rfl

/-- Enabling federation does not change a plan. -/
theorem plan_of_federating (rights : Access.Granted c q context granted)
    (uncached : facilities.cache = none)
    (planned : (plan c facilities granted context tolerance).result = .ok p)
    : (plan c { facilities with federation := true } granted context tolerance).result = .ok p := by
  have eases : Eases c facilities tolerance c { facilities with federation := true } tolerance
      (c.touched q) :=
    eases_of_federation
  obtain ⟨other, planned', _⟩ := eases.exists_keeps rights rights uncached planned
  have route := route_of_federating rights uncached planned planned'
  obtain ⟨assigned, addressed, is⟩ := parts_of_plan rights planned
  obtain ⟨assigned', addressed', is'⟩ := parts_of_plan rights planned'
  rw [route, assigned, Except.ok.injEq] at assigned'
  rw [route, addressed, Except.ok.injEq] at addressed'
  rw [planned', is', is, route, ← assigned', ← addressed']

/-- A query that is planned without a cache stays planned where replicas may lag further behind,
where federation is enabled, which changes nothing, and where a table is copied to one more
database. It keeps what was achieved before.
-/
theorem plan_monotone (allowed : (Access.apply c q context).result = .ok granted)
    (uncached : facilities.cache = none)
    (planned : (plan c facilities granted context tolerance).result = .ok p)
    : (∀ looser,
          tolerance.rank ≤ looser.rank
          → ∃ other,
              (plan c facilities granted context looser).result = .ok other ∧ Keeps p other)
      ∧ (plan c { facilities with federation := true } granted context tolerance).result = .ok p
      ∧ ∀ larger,
          c.Grows larger
          → (Access.apply larger q context).result = .ok granted
            ∧ ∃ other,
                (plan larger facilities granted context tolerance).result = .ok other
                ∧ Keeps p other := by
  have rights := Access.granted_of_apply allowed
  refine ⟨fun looser weaker => ?_, plan_of_federating rights uncached planned,
    fun larger grows => ?_⟩
  · exact (eases_of_looser weaker).exists_keeps rights rights uncached planned
  · have allowed' : (Access.apply larger q context).result = .ok granted := by
      rw [grows.alike.apply_eq, allowed]
    exact ⟨allowed', (eases_of_grows grows).exists_keeps rights (Access.granted_of_apply allowed')
      uncached planned⟩

end Planning

namespace Sample

/-- The lake with a copy of the users that lags by seconds. -/
def fullLakeDocument : Document :=
  { lakeDocument with
    syncs := lakeDocument.syncs ++ [⟨"u", "lake", "users_copy", .debezium, .seconds⟩] }

theorem fullLakeDocument_intact : fullLakeDocument.Intact := by decide +kernel

def fullLakeCatalog : Catalog := ⟨fullLakeDocument, fullLakeDocument_intact⟩

theorem lakeCatalog_grows : lakeCatalog.Grows fullLakeCatalog :=
  ⟨lakeDocument.syncs, _, [], (List.append_nil _).symm, rfl⟩

/-- Orders that are read beside their users within minutes stay planned. With a copy of the users in
the lake they are read there, where the orders are at home instead of the users.
-/
theorem lake_orders_stay_planned
    : ∃ s p,
        (Access.apply lakeCatalog query context).result = .ok s
        ∧ facilities.cache = none
        ∧ (Planning.plan lakeCatalog facilities s context .minutes).result = .ok p
        ∧ p.route.strategy = "materialized"
        ∧ p.route.target = "main"
        ∧ (∃ other,
            (Planning.plan lakeCatalog facilities s context .hours).result = .ok other
            ∧ Planning.Keeps p other)
        ∧ (Planning.plan lakeCatalog { facilities with federation := true } s context
            .minutes).result
          = .ok p
        ∧ ∃ other,
            (Planning.plan fullLakeCatalog facilities s context .minutes).result = .ok other
            ∧ other.route.target = "lake"
            ∧ Planning.Keeps p other := by
  have taken
      : (do
          let s ← Access.apply lakeCatalog query context
          let p ← Planning.plan lakeCatalog facilities s context .minutes
          let other ← Planning.plan fullLakeCatalog facilities s context .minutes
          return (p.route.strategy, p.route.target, other.route.strategy,
            other.route.target)).result
        = .ok ("materialized", "main", "materialized", "lake") := by
    cbv
  simp only [Traced.result_bind, Outcome.bind_eq_ok] at taken
  obtain ⟨s, allowed, p, planned, other, planned', routes⟩ := taken
  obtain ⟨strategy, target, _, target'⟩ : _ ∧ _ ∧ _ ∧ _ := by
    simpa only [Outcome.pure_eq, Traced.result_pure, Except.ok.injEq, Prod.mk.injEq] using routes
  have uncached : facilities.cache = none := rfl
  obtain ⟨looser, federating, larger⟩ := Planning.plan_monotone allowed uncached planned
  obtain ⟨_, found, same, keeps⟩ := larger fullLakeCatalog lakeCatalog_grows
  rw [planned', Except.ok.injEq] at same
  subst same
  exact ⟨s, p, allowed, uncached, planned, strategy, target, looser .hours (by decide), federating,
    other, planned', target', keeps⟩

end Sample

end Polystore
