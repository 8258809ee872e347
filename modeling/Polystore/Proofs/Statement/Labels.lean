import Polystore.Proofs.Access.Labels
import Polystore.Proofs.Statement.Naming
import Polystore.Proofs.Statement.Restoring

/-! The labels of a result, which has as many values in a row as there are different labels. Columns
that are selected by name have labels of their own. Groups share a label where a column is grouped
twice, perhaps by two granularities, and an aggregate shares one with a group where it is called as
the column is; neither is an issue of the query, and one of the two values is lost.
-/

namespace Polystore

-----------------------------------------------------------------------------------------
-- Labels by clause
-----------------------------------------------------------------------------------------

namespace Query

/-- How a query spells the columns that it groups by. -/
def groupSpellings (q : Query) : List String := q.groupBy.map (·.column)

/-- The labels of the rows that a query gives of a selection. -/
def labelsOf (q : Query) (selection : List ColumnRef) : List String :=
  if q.isAggregate then q.groupSpellings ++ q.aggregateLabels else selection.map (·.label)

/-- Labels that no two columns of the result share: no column is grouped twice in one spelling, no
aggregate is called as a group is, and no table that gives all its columns shares a label.
-/
structure LabelsApart (q : Query) (c : Catalog) (role : String) : Prop where
  groups : q.groupSpellings.Nodup
  aggregates : ∀ label ∈ q.aggregateLabels, label ∉ q.groupSpellings
  defaults : q.isAggregate = false → q.namedColumns = [] → Access.DefaultsApart c q role

end Query

namespace Statement

variable {c : Catalog} {q : Query} {context : Context} {p : Plan} {statement : Statement String}

/-- The labels of the statement that a plan describes are those of its query. -/
theorem labels_named {engine : String} (rows : p.query.mode = .rows)
    : (named c p engine).labels = p.query.labelsOf p.granted.selection := by
  have groups : (p.query.groupBy.map (groupNamed c p)).map (·.column.label)
      = p.query.groupSpellings := by
    rw [List.map_map]
    exact List.map_congr_left fun g _ => ColumnRef.label_parse ..
  have aggregates : (p.query.aggregations.map (aggregateNamed c p)).map (·.label)
      = p.query.aggregateLabels := by
    rw [List.map_map]
    rfl
  have columns : (p.granted.selection.map c.columnName).map (·.label)
      = p.granted.selection.map (·.label) := by
    rw [List.map_map]
    rfl
  simp [labels, named, rows, Query.labelsOf, Query.isAggregate, groups, aggregates, columns,
    or_comm]

/-- The labels of a statement that comes of a resolvable plan are those of the query. -/
theorem Resolvable.labels_eq (h : Resolvable c q context p) (rows : q.mode = .rows)
    (resolved : (resolve p).result = .ok statement)
    : statement.labels = q.labelsOf p.granted.selection := by
  obtain ⟨engine, _, rfl⟩ := h.eq_named resolved
  rw [labels_named (by rwa [h.query_eq]), h.query_eq]

-----------------------------------------------------------------------------------------
-- Labels that are shared
-----------------------------------------------------------------------------------------

/-- The labels of a query are distinct exactly if they are apart clause by clause. -/
theorem labelsOf_nodup_iff {s : ScopedQuery} (accepted : Validation.Accepted c q)
    (granted : Access.Granted c q context s)
    : (q.labelsOf s.selection).Nodup ↔ q.LabelsApart c context.role := by
  unfold Query.labelsOf
  cases aggregate : q.isAggregate with
  | true =>
      have aggregates : q.aggregateLabels.Nodup := accepted.labels
      rw [if_pos rfl, List.nodup_append]
      constructor
      · rintro ⟨groups, _, apart⟩
        refine ⟨groups, fun label called grouped => apart label grouped label called rfl, ?_⟩
        simp [aggregate]
      · intro apart
        refine ⟨apart.groups, aggregates, ?_⟩
        rintro label grouped _ called rfl
        exact apart.aggregates label called grouped
  | false =>
      obtain ⟨noAggregates, noGroups⟩ : q.aggregations = [] ∧ q.groupBy = [] := by
        simpa [Query.isAggregate] using aggregate
      rw [if_neg Bool.false_ne_true, granted.labels_nodup_iff accepted]
      constructor
      · intro apart
        exact ⟨by simp [Query.groupSpellings, noGroups],
          by simp [Query.aggregateLabels, noAggregates], apart⟩
      · exact (·.defaults)

/-- The columns of a result have labels of their own, and each of them its value in every row,
exactly if no column is grouped twice in one spelling, no aggregate is called as a group is, and no
table shares a label where all columns are selected.
-/
theorem labels_distinct_iff {s : ScopedQuery} {facilities : Facilities} {tolerance : Freshness}
    (valid : Validation.issues c q = []) (granted : (Access.apply c q context).result = .ok s)
    (planned : (Planning.plan c facilities s context tolerance).result = .ok p)
    (resolved : (resolve p).result = .ok statement) (rows : q.mode = .rows)
    : (statement.labels.Nodup ↔ q.LabelsApart c context.role)
      ∧ ∀ row, (statement.restore row).keys = statement.labels ↔ q.LabelsApart c context.role := by
  have h := resolvable_of_plan valid granted planned
  have apart : statement.labels.Nodup ↔ q.LabelsApart c context.role := by
    rw [h.labels_eq rows resolved, labelsOf_nodup_iff h.accepted h.granted]
  refine ⟨apart, fun row => ?_⟩
  rw [← apart, keys_restore]
  constructor
  · intro whole
    rw [← whole]
    exact nodup_eraseDups _
  · exact eraseDups_of_nodup

end Statement

namespace Sample

/-- The number of the orders of each user, under a label. -/
def countedOrders (label : String) : Query :=
  { ordersQuery with
    columns := []
    orderBy := []
    groupBy := [⟨"user", none⟩]
    aggregations := [⟨.count, none, label⟩]
    byIds := none }

/-- A number that is called as the user is has its label: the query has no issues, and a row of its
result has one value for both.
-/
theorem user_label_shared
    : ∃ s p statement,
        Validation.issues catalog (countedOrders "user") = []
        ∧ (Access.apply catalog (countedOrders "user") context).result = .ok s
        ∧ (Planning.plan catalog facilities s context .hours).result = .ok p
        ∧ (Statement.resolve p).result = .ok statement
        ∧ statement.labels = ["user", "user"]
        ∧ ¬ statement.labels.Nodup
        ∧ ∀ row, (statement.restore row).keys = ["user"] := by
  obtain ⟨s, p, statement, granted, planned, resolved, shared⟩
      : ∃ s p statement,
          (Access.apply catalog (countedOrders "user") context).result = .ok s
          ∧ (Planning.plan catalog facilities s context .hours).result = .ok p
          ∧ (Statement.resolve p).result = .ok statement
          ∧ statement.labels = ["user", "user"] :=
    ⟨_, _, _, rfl, rfl, rfl, rfl⟩
  refine ⟨s, p, statement, rfl, granted, planned, resolved, shared, ?_, fun row => ?_⟩
  · rw [shared]
    decide
  · rw [Statement.keys_restore, shared]
    decide

/-- A number that is called otherwise has a label and a value of its own. -/
theorem labels_of_counted_orders
    : ∃ s p statement,
        (Access.apply catalog (countedOrders "n") context).result = .ok s
        ∧ (Planning.plan catalog facilities s context .hours).result = .ok p
        ∧ (Statement.resolve p).result = .ok statement
        ∧ (countedOrders "n").LabelsApart catalog "clerk"
        ∧ statement.labels.Nodup
        ∧ ∀ row, (statement.restore row).keys = statement.labels := by
  obtain ⟨s, p, statement, granted, planned, resolved⟩
      : ∃ s p statement,
          (Access.apply catalog (countedOrders "n") context).result = .ok s
          ∧ (Planning.plan catalog facilities s context .hours).result = .ok p
          ∧ (Statement.resolve p).result = .ok statement :=
    ⟨_, _, _, rfl, rfl, rfl⟩
  have apart : (countedOrders "n").LabelsApart catalog "clerk" :=
    ⟨by decide, by decide, fun aggregate => absurd aggregate (by decide)⟩
  obtain ⟨distinct, whole⟩ := Statement.labels_distinct_iff (by rfl) granted planned resolved rfl
  exact ⟨s, p, statement, granted, planned, resolved, apart, distinct.mpr apart,
    fun row => (whole row).mpr apart⟩

end Sample

end Polystore
