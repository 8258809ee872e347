import Polystore.Proofs.Access.Labels
import Polystore.Proofs.Metadata.Integrity
import Polystore.Proofs.Validation.Acceptance

/-! What is granted to a query of one table. All that it selects is of that table, its filters
are the conditions of the row rules, and no two selected columns share a label.
-/

namespace Polystore

/-- A query for rows of one table by ids and nothing else. -/
structure Query.LooksUp (q : Query) (ids : List Value) : Prop where
  byIds : q.byIds = some ids
  joins : q.joins = []
  filters : q.filters = []
  groupBy : q.groupBy = []
  aggregations : q.aggregations = []
  orderBy : q.orderBy = []
  limit : q.limit = none
  offset : q.offset = none
  mode : q.mode = .rows

namespace Access

variable {c : Catalog} {q : Query} {context : Context} {s : ScopedQuery}

-----------------------------------------------------------------------------------------
-- Granted queries of one table
-----------------------------------------------------------------------------------------

namespace Granted

/-- The only scope is that of the table. -/
theorem scopes_eq (h : Granted c q context s) (accepted : Validation.Accepted c q)
    (alone : q.joins = [])
    : ∃ scope rule, s.scopes = [(q.source, scope)] ∧ Scopes c context q.source rule scope := by
  have aligned := h.scopes
  rw [accepted.tableNames_eq, alone] at aligned
  generalize s.scopes = scopes at aligned ⊢
  cases aligned with
  | @cons _ e _ _ head rest =>
      cases rest
      obtain ⟨name, scope⟩ := e
      obtain ⟨rfl, rule, rights⟩ := head
      exact ⟨scope, rule, rfl, rights⟩

/-- All that is selected is of the table. -/
theorem table_eq_of_mem (h : Granted c q context s) (accepted : Validation.Accepted c q)
    (alone : q.joins = []) {ref : ColumnRef} (member : ref ∈ s.selection)
    : ref.table = q.source := by
  obtain ⟨scope, found, _⟩ := h.allows_of_selection member
  have touched := (h.scopes_of_lookup found).1
  simpa [accepted.tableNames_eq, alone] using touched

/-- No two selected columns share a label, whether they are selected by name or by default. -/
theorem labels_nodup (h : Granted c q context s) (accepted : Validation.Accepted c q)
    (alone : q.joins = [])
    : (s.selection.map (·.label)).Nodup := by
  rw [h.labels_nodup_iff accepted]
  exact fun _ _ => ⟨by simp [alone], by simp [alone]⟩

end Granted

end Access

end Polystore
