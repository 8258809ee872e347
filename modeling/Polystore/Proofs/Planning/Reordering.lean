import Polystore.Proofs.Metadata.Reordering

/-! Planning over a catalog in another order. Each step of planning comes to the same, and records
the same, because it looks tables, copies and databases up, and goes through places by name.
-/

namespace Polystore.Planning

variable {s : Setting} {other : Catalog} (h : s.catalog.Reordered other)

include h

-----------------------------------------------------------------------------------------
-- The cache
-----------------------------------------------------------------------------------------

theorem lookup_reordered : lookup { s with catalog := other } = lookup s := by
  simp only [lookup, h.cached]
  rfl

theorem throughCache_reordered : throughCache { s with catalog := other } = throughCache s := by
  simp only [throughCache, lookup_reordered h, readCache]

-----------------------------------------------------------------------------------------
-- Copies
-----------------------------------------------------------------------------------------

theorem obstacle_reordered (t : Table) (database : String)
    : obstacle { s with catalog := other } t database = obstacle s t database := by
  simp only [obstacle, h.copies]

theorem obstacles_reordered (database : String)
    : obstacles { s with catalog := other } database = obstacles s database := by
  simp only [obstacles, obstacle_reordered h]

theorem homes_reordered (database : String)
    : homes { s with catalog := other } database = homes s database := by
  simp only [homes, h.copies]

theorem candidates_reordered : candidates { s with catalog := other } = candidates s := by
  simp only [candidates, h.places, obstacles_reordered h, homes_reordered h]

theorem materialized_reordered : materialized { s with catalog := other } = materialized s := by
  simp only [materialized, candidates_reordered h, rejected, h.places, obstacles_reordered h,
    homes_reordered h]

-----------------------------------------------------------------------------------------
-- Federation
-----------------------------------------------------------------------------------------

theorem federationObstacle_reordered
    : federationObstacle { s with catalog := other } = federationObstacle s := by
  simp only [federationObstacle, withoutCatalog, h.databases]

theorem federated_reordered : federated { s with catalog := other } = federated s := by
  simp only [federated, federationObstacle_reordered h]

theorem report_reordered (anchor : String) (t : Table)
    : report { s with catalog := other } anchor t = report s anchor t := by
  simp only [report, otherObstacle, obstacle_reordered h, federationObstacle_reordered h, h.places]

theorem reports_reordered : reports { s with catalog := other } = reports s := by
  simp only [reports, funext (report_reordered h _)]

-----------------------------------------------------------------------------------------
-- Plans
-----------------------------------------------------------------------------------------

theorem chooseRoute_reordered : chooseRoute { s with catalog := other } = chooseRoute s := by
  have direct : direct { s with catalog := other } = direct s := rfl
  simp only [chooseRoute, throughCache_reordered h, direct, materialized_reordered h,
    federated_reordered h, reports_reordered h]

theorem planFor_reordered (route : Route)
    : planFor { s with catalog := other } route = planFor s route := by
  have copies (t : Table) : copyFor other route t = copyFor s.catalog route t := by
    simp only [copyFor, h.copies]
  simp only [planFor, h.assignments_eq copies, h.engineFor_eq]

omit h in
/-- A query is planned in the same way, with the same record, over a catalog in any order. -/
theorem plan_reordered {c : Catalog} (h : c.Reordered other) (facilities : Facilities)
    (granted : ScopedQuery) (context : Context) (tolerance : Freshness)
    : plan other facilities granted context tolerance
      = plan c facilities granted context tolerance := by
  unfold plan
  cases tablesOf granted granted.query.tableNames with
  | error fault => rfl
  | ok tables =>
      let s : Setting := ⟨c, facilities, granted, tables, context, tolerance⟩
      have chosen := chooseRoute_reordered (s := s) h
      have planned := planFor_reordered (s := s) h
      dsimp only [s] at chosen planned
      simp only [chosen, planned]

end Polystore.Planning
