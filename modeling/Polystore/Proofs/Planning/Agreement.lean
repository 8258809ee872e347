import Polystore.Proofs.Planning.Assignments

/-! What answering takes from a catalog. Access control asks a catalog only for tables by name and
for rules, and a plan for databases and copies, so that catalogs which find the same of these lead
to the same plans.
-/

namespace Polystore

/-- Whether two catalogs find the same tables, databases and rules. -/
structure Catalog.Alike (c other : Catalog) : Prop where
  tables : ∀ name, other.table? name = c.table? name
  databases : ∀ id, other.database? id = c.database? id
  rules : ∀ role t, other.rule? role t = c.rule? role t

namespace Catalog.Alike

variable {c other : Catalog} (h : c.Alike other)

include h

-----------------------------------------------------------------------------------------
-- Access control
-----------------------------------------------------------------------------------------

/-- The same rules are found for the tables of some names, by induction on the names. -/
theorem rules_eq (role : String) (names : List String)
    : Access.rules other role names = Access.rules c role names := by
  induction names with
  | nil => rfl
  | cons name rest ih => simp only [Access.rules, h.tables, h.rules, ih]

theorem apply_eq (q : Query) (context : Context)
    : Access.apply other q context = Access.apply c q context := by
  simp only [Access.apply, h.rules_eq]

theorem touched_eq (q : Query) : other.touched q = c.touched q :=
  List.filterMap_congr fun name _ => h.tables name

-----------------------------------------------------------------------------------------
-- What a route assigns
-----------------------------------------------------------------------------------------

theorem databaseOf_eq (id : String) : Planning.databaseOf other id = Planning.databaseOf c id := by
  simp only [Planning.databaseOf, h.databases]

theorem engineFor_eq (route : Route)
    : Planning.engineFor other route = Planning.engineFor c route := by
  simp only [Planning.engineFor, h.databaseOf_eq]

/-- Tables that are served by the same copies are assigned the same, by induction on the tables. -/
theorem assignments_eq {route : Route}
    (copies : ∀ t, Planning.copyFor other route t = Planning.copyFor c route t)
    (tables : List Table)
    : Planning.assignments other route tables = Planning.assignments c route tables := by
  induction tables with
  | nil => rfl
  | cons t rest ih =>
      simp only [Planning.assignments, Planning.assign, copies, h.databaseOf_eq, ih]

end Catalog.Alike

end Polystore
