import Mathlib.Data.List.Forall2
import Polystore.Proofs.Metadata.Reordering
import Polystore.Validation.Query

/-! Validation against a catalog in another order. The same is wrong with a query in either order.
Only where a complaint lists tables of the catalog, those that there are or those that are related
to one, are they listed in the order of the document.
-/

namespace Polystore.Validation

-----------------------------------------------------------------------------------------
-- Issues that are alike
-----------------------------------------------------------------------------------------

/-- Complaints that differ at most in the order of the tables that they list. -/
inductive Complaint.Alike : Complaint → Complaint → Prop where
  | same (complaint : Complaint) : Alike complaint complaint
  | unknownTable {name : String} {known known' : List String} (perm : known'.Perm known)
      : Alike (.unknownTable name known) (.unknownTable name known')
  | unrelated {source table : String} {related related' : List String}
      (perm : related'.Perm related)
      : Alike (.unrelated source table related) (.unrelated source table related')

/-- Issues about the same part of a query with complaints that are alike. -/
structure Issue.Alike (issue other : Issue) : Prop where
  field : other.field = issue.field
  complaint : issue.complaint.Alike other.complaint

/-- Lists of issues that are alike, one by one. -/
def IssuesAlike (issues others : List Issue) : Prop := List.Forall₂ Issue.Alike issues others

namespace IssuesAlike

variable {issues others rest rest' : List Issue}

theorem refl (issues : List Issue) : IssuesAlike issues issues :=
  List.forall₂_same.mpr fun _ _ => ⟨rfl, .same _⟩

theorem append (h : IssuesAlike issues others) (h' : IssuesAlike rest rest')
    : IssuesAlike (issues ++ rest) (others ++ rest') :=
  List.rel_append h h'

theorem singleton {field : String} {complaint other : Complaint} (h : complaint.Alike other)
    : IssuesAlike [⟨field, complaint⟩] [⟨field, other⟩] :=
  .cons ⟨rfl, h⟩ .nil

/-- Issues of items are alike if those of each item are, by induction on the items. -/
theorem each {α : Type} {f g : Nat → α → List Issue} (h : ∀ i a, IssuesAlike (f i a) (g i a))
    (items : List α)
    : IssuesAlike (Validation.each items f) (Validation.each items g) := by
  unfold Validation.each
  generalize 0 = i
  induction items generalizing i with
  | nil => exact .nil
  | cons a rest ih => exact (h i a).append (ih (i + 1))

end IssuesAlike

-----------------------------------------------------------------------------------------
-- Tables and joins
-----------------------------------------------------------------------------------------

variable {c other : Catalog} (h : c.Reordered other) (q : Query)

include h

theorem tableIssue_reordered (field name : String)
    : IssuesAlike (tableIssue c field name) (tableIssue other field name) := by
  unfold tableIssue
  rw [h.tables]
  split
  · exact .nil
  · exact .singleton (.unknownTable (h.declared.map _))

theorem relatedTables_perm (t : Table) : (relatedTables other t).Perm (relatedTables c t) :=
  (h.declared.filter _).map _

theorem linkIssues_reordered (i : Nat) (source : String) (j : Join)
    : IssuesAlike (linkIssues c i source j) (linkIssues other i source j) := by
  unfold linkIssues
  rw [h.tables, h.tables]
  cases c.table? source with
  | none => exact .nil
  | some origin =>
      cases c.table? j.table with
      | none => exact .nil
      | some target =>
          refine .append ?_ (.refl _)
          split
          · exact .singleton (.unrelated (relatedTables_perm h origin))
          · exact .nil

/-- The issues of joins are alike, by induction on the joins. -/
theorem joinIssuesFrom_reordered (joined : List String) (i : Nat) (joins : List Join)
    : IssuesAlike (joinIssuesFrom c q joined i joins) (joinIssuesFrom other q joined i joins) := by
  induction joins generalizing joined i with
  | nil => exact .nil
  | cons j rest ih =>
      unfold joinIssuesFrom
      split
      · exact .append (.refl [_]) (ih joined (i + 1))
      · refine .append ?_ (ih _ (i + 1))
        split
        · exact linkIssues_reordered h i _ j
        · exact .refl _

-----------------------------------------------------------------------------------------
-- Columns
-----------------------------------------------------------------------------------------

theorem withColumn_reordered : withColumn other q = withColumn c q := by
  funext field reference issues
  simp only [withColumn, resolve, h.tables]

/-- The issues of aggregates are the same, by induction on the aggregates. -/
theorem aggregateIssuesFrom_reordered (labels : List String) (i : Nat)
    (aggregations : List Aggregation)
    : aggregateIssuesFrom other q labels i aggregations
      = aggregateIssuesFrom c q labels i aggregations := by
  induction aggregations generalizing labels i with
  | nil => rfl
  | cons a rest ih => simp only [aggregateIssuesFrom, withColumn_reordered h, ih]

/-- The same is wrong with a query in any order of the catalog. -/
theorem issues_reordered : IssuesAlike (issues c q) (issues other q) := by
  have columns : columnIssues other q = columnIssues c q := by
    simp only [columnIssues, withColumn_reordered h]
  have filters : filterIssues other q = filterIssues c q := by
    simp only [filterIssues, withColumn_reordered h]
  have ids : idIssues other q = idIssues c q := by
    simp only [idIssues, h.tables]
  have aggregations : aggregationIssues other q = aggregationIssues c q := by
    simp only [aggregationIssues, groupIssues, withColumn_reordered h,
      aggregateIssuesFrom_reordered h]
  have tables : IssuesAlike (tableIssues c q) (tableIssues other q) :=
    (tableIssue_reordered h ..).append (.each (fun _ _ => tableIssue_reordered h ..) q.joins)
  have joins : IssuesAlike (joinIssues c q) (joinIssues other q) :=
    joinIssuesFrom_reordered h q [q.source] 0 q.joins
  unfold issues
  rw [columns, filters, ids, aggregations]
  exact (tables.append joins).append (.refl _) |>.append (.refl _) |>.append (.refl _)
    |>.append (.refl _) |>.append (.refl _)

end Polystore.Validation
