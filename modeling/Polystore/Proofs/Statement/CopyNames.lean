import Polystore.Proofs.Trace.Outcomes
import Polystore.Statement.Resolution

/-! Statements of plans taken apart. Each clause of a statement is resolved from the clause of the
query, and every table goes by the physical name of the copy that is assigned to it.
-/

namespace Polystore.Statement

variable {p : Plan} {s : Statement String}

/-- The clauses of the statement that a plan is resolved to. -/
structure ResolvesTo (p : Plan) (s : Statement String) : Prop where
  engine : p.engine = some s.engine
  table : tableName p p.query.source = .ok s.table
  joins : p.query.joins.mapM (resolveJoin p) = .ok s.joins
  columns : p.granted.selection.mapM (resolveColumn p) = .ok s.columns
  conditions
    : ∃ ids filters,
        idCondition p = .ok ids
        ∧ resolveFilters p p.granted.filters = .ok filters
        ∧ s.conditions = ids ++ filters
  groups : p.query.groupBy.mapM (resolveGroup p) = .ok s.groupBy
  aggregates
    : ∃ found,
        p.query.aggregations.mapM (resolveAggregate p) = .ok found
        ∧ s.aggregates = (Entries.ofList found).values
        ∧ p.query.orderBy.mapM (resolveOrder p (.ofList found)) = .ok s.orderBy
        ∧ p.query.having.mapM (resolveHaving (.ofList found)) = .ok s.having

/-- A statement that a plan is resolved to is resolved clause by clause. -/
theorem resolvesTo_of_resolve (h : (resolve p).result = .ok s) : ResolvesTo p s := by
  simp only [resolve, Traced.result_bind, Traced.result_ofExcept, Traced.result_note,
    Traced.result_pure, Outcome.ok_bind] at h
  obtain ⟨_, made, h⟩ := Outcome.bind_eq_ok.mp h
  cases h
  unfold ofPlan at made
  split at made
  · cases made
  next engine needed =>
    obtain ⟨filters, hfilters, made⟩ := Outcome.bind_eq_ok.mp made
    obtain ⟨joins, hjoins, made⟩ := Outcome.bind_eq_ok.mp made
    obtain ⟨ids, hids, made⟩ := Outcome.bind_eq_ok.mp made
    obtain ⟨groups, hgroups, made⟩ := Outcome.bind_eq_ok.mp made
    obtain ⟨found, hfound, made⟩ := Outcome.bind_eq_ok.mp made
    obtain ⟨orders, horders, made⟩ := Outcome.bind_eq_ok.mp made
    obtain ⟨table, htable, made⟩ := Outcome.bind_eq_ok.mp made
    obtain ⟨columns, hcolumns, made⟩ := Outcome.bind_eq_ok.mp made
    obtain ⟨having, hhaving, made⟩ := Outcome.bind_eq_ok.mp made
    cases made
    exact ⟨needed, htable, hjoins, hcolumns, ⟨ids, filters, hids, hfilters, rfl⟩, hgroups,
      ⟨found, hfound, rfl, horders, hhaving⟩⟩

/-- Whether a table goes by the name of the copy that is assigned to a name, for callers by that
name itself.
-/
def NamesCopy (p : Plan) (name : String) (t : TableName String) : Prop :=
  t.apiName = name
  ∧ ∃ a, p.assignments.lookup name = some a ∧ t.physicalName = a.copy.physicalName

theorem tableName_eq_ok {name : String} {t : TableName String} (h : tableName p name = .ok t)
    : NamesCopy p name t := by
  unfold tableName at h
  split at h
  next a found =>
    cases h
    exact ⟨rfl, a, found, rfl⟩
  · cases h

/-- The tables of a statement go by the names of the copies assigned to the tables of its query. -/
structure NamesCopies (p : Plan) (s : Statement String) : Prop where
  table : NamesCopy p p.query.source s.table
  joins : List.Forall₂ (fun j join => NamesCopy p j.table join.table) p.query.joins s.joins

/-- Whatever a plan is resolved to names the assigned copies. -/
theorem ResolvesTo.namesCopies (h : ResolvesTo p s) : NamesCopies p s := by
  refine ⟨tableName_eq_ok h.table, (Outcome.mapM_eq_ok.mp h.joins).imp ?_⟩
  intro j join resolved
  obtain ⟨source, _, resolved⟩ := Outcome.bind_eq_ok.mp resolved
  obtain ⟨target, _, resolved⟩ := Outcome.bind_eq_ok.mp resolved
  obtain ⟨_, _, resolved⟩ := Outcome.bind_eq_ok.mp resolved
  obtain ⟨table, named, resolved⟩ := Outcome.bind_eq_ok.mp resolved
  obtain ⟨left, _, resolved⟩ := Outcome.bind_eq_ok.mp resolved
  obtain ⟨right, _, resolved⟩ := Outcome.bind_eq_ok.mp resolved
  obtain ⟨conditions, _, resolved⟩ := Outcome.bind_eq_ok.mp resolved
  cases resolved
  exact tableName_eq_ok named

end Polystore.Statement
