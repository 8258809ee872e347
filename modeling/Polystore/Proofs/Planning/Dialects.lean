import Polystore.Proofs.Entries.Lookup
import Polystore.Proofs.Planning.Routing
import Polystore.Sql.Dialect

/-! The dialects of plans. A plan names the dialect of an engine: that of the single database where
its statement runs, or that of the lake where homes are federated.
-/

namespace Polystore

open Outcome

namespace Planning

/-- The database where the statement of a route runs, if it is a single one. -/
def place? : Route → Option String
  | .cached hit => some hit.database
  | .direct database | .materialized database => some database
  | .federated => none

variable {c : Catalog} {route : Route} {engine : String}

/-- The dialect of a database is that of its engine. -/
theorem dialect_of_database {database : String}
    (h : (fun d => some (dialectOf d.engine)) <$> databaseOf c database = .ok (some engine))
    : ∃ d, c.database? database = some d ∧ engine = dialectOf d.engine := by
  obtain ⟨d, found, same⟩ := map_eq_ok.mp h
  unfold databaseOf at found
  split at found
  next declared =>
    cases found
    cases same
    exact ⟨d, declared, rfl⟩
  · cases found

/-- The dialect of a route is that of the lake, or of the database where its statement runs. -/
theorem engineFor_eq_some (h : engineFor c route = .ok (some engine))
    : (route = .federated ∧ engine = dialectOf .iceberg)
      ∨ ∃ database d,
          place? route = some database
          ∧ c.database? database = some d
          ∧ engine = dialectOf d.engine := by
  unfold engineFor at h
  split at h
  · cases h
    exact .inl ⟨rfl, rfl⟩
  · split at h
    · cases h
    · exact .inr ⟨_, _, rfl, (dialect_of_database h).choose_spec⟩
  · exact .inr ⟨_, _, rfl, (dialect_of_database h).choose_spec⟩
  · exact .inr ⟨_, _, rfl, (dialect_of_database h).choose_spec⟩

/-- A route that is not through the cache always needs a dialect. -/
theorem exists_engine_of_hit?_eq_none {found : Option String} (h : engineFor c route = .ok found)
    (alone : route.hit? = none)
    : ∃ engine, found = some engine := by
  cases route with
  | cached hit => cases alone
  | direct database | materialized database =>
      obtain ⟨d, _, rfl⟩ := map_eq_ok.mp h
      exact ⟨_, rfl⟩
  | federated =>
      cases h
      exact ⟨_, rfl⟩

/-- A route needs no dialect exactly where the cache answers for every id. -/
theorem eq_none_iff_complete {found : Option String} (h : engineFor c route = .ok found)
    : found = none ↔ ∃ hit, route.hit? = some hit ∧ hit.isComplete = true := by
  cases taken : route.hit? with
  | none =>
      obtain ⟨engine, rfl⟩ := exists_engine_of_hit?_eq_none h taken
      simp
  | some hit =>
      cases route <;> cases taken
      cases complete : hit.isComplete with
      | true =>
          simp only [engineFor, complete, if_true, Except.ok.injEq] at h
          simp [← h, complete]
      | false =>
          simp only [engineFor, complete, Bool.false_eq_true, if_false] at h
          obtain ⟨d, _, rfl⟩ := map_eq_ok.mp h
          simp [complete]

/-- A hit on a route that needs a dialect leaves ids to the statement. -/
theorem partly_of_engineFor (h : engineFor c route = .ok (some engine)) (hit : CacheHit)
    (taken : route.hit? = some hit)
    : hit.isComplete = false := by
  cases complete : hit.isComplete with
  | false => rfl
  | true => cases (eq_none_iff_complete h).mpr ⟨hit, taken, complete⟩

/-- The dialect of a plan is the one that its route needs. -/
theorem engineFor_of_plan {facilities : Facilities} {granted : ScopedQuery} {context : Context}
    {tolerance : Freshness} {p : Plan}
    (planned : (plan c facilities granted context tolerance).result = .ok p)
    : engineFor c p.route = .ok p.engine := by
  obtain ⟨_, _, _, _, made⟩ := plan_eq_ok.mp planned
  obtain ⟨_, _, _, addressed, rfl⟩ := planFor_eq_ok.mp made
  exact addressed

end Planning

namespace Dialects

/-- Whether every engine has its dialect. -/
def Complete (ds : Dialects) : Prop :=
  ∀ engine, (ds.lookup (.text (Planning.dialectOf engine))).isSome

theorem complete_standard : standard.Complete := by
  intro engine
  cases engine <;> rfl

/-- Where every engine has its dialect, that of an engine is found. -/
theorem Complete.exists_find {ds : Dialects} (h : ds.Complete) (engine : Engine)
    : ∃ d, ds.find (.text (Planning.dialectOf engine)) = .ok d := by
  obtain ⟨d, found⟩ := Option.isSome_iff_exists.mp (h engine)
  exact ⟨d, by simp [find, Value.isCollection, found]⟩

/-- Of the standard dialects only that of the lake wants catalogs. -/
theorem qualified_iff {engine : Engine} {d : Dialect}
    (found : standard.find (.text (Planning.dialectOf engine)) = .ok d)
    : d.qualified = true ↔ engine = .iceberg := by
  cases engine <;> cases found <;> simp [Dialect.postgres, Dialect.clickhouse, Dialect.trino]

end Dialects

/-- The dialect of a plan is known where every engine has its dialect. -/
theorem Planning.exists_find {c : Catalog} {route : Route} {engine : String} {dialects : Dialects}
    (complete : dialects.Complete) (h : engineFor c route = .ok (some engine))
    : ∃ d, dialects.find (.text engine) = .ok d := by
  rcases engineFor_eq_some h with ⟨_, rfl⟩ | ⟨_, database, _, _, rfl⟩
  · exact complete.exists_find .iceberg
  · exact complete.exists_find database.engine

end Polystore
