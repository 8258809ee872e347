import Polystore.Proofs.Access.OneTable
import Polystore.Proofs.Semantics.Chains
import Polystore.Proofs.Statement.Restoring
import Polystore.Proofs.Value.Sameness

/-! What the statement of a lookup by ids comes to. It shows the visible rows whose key is equal
to one of the ids, cut to the selected columns under their labels.
-/

namespace Polystore

namespace Semantics

open Statement

variable {v : Conventions} {s : Statement String}

-----------------------------------------------------------------------------------------
-- Statements for all rows
-----------------------------------------------------------------------------------------

/-- A statement for the values of columns in all rows, not in those of a page. -/
structure Unpaged (s : Statement String) : Prop where
  mode : s.mode = .rows
  groupBy : s.groupBy = []
  aggregates : s.aggregates = []
  limit : s.limit = .null
  offset : s.offset = .null

/-- What a result shows of a combination. -/
def shownOf (s : Statement String) (x : Combination) : Row :=
  s.columns.map fun column => (column.label, x.value column)

/-- Combinations in the order of a statement. -/
def inOrder (v : Conventions) (s : Statement String) (found : List Combination)
    : List Combination :=
  found.insertionSort fun x y =>
    v.ordered (s.orderBy.map (·.direction)) (contribution v s x).order (contribution v s y).order

/-- Without an order, all combinations stay where they are. -/
theorem inOrder_eq_self (unordered : s.orderBy = []) (found : List Combination)
    : inOrder v s found = found := by
  refine List.Pairwise.insertionSort_eq ?_
  rw [unordered]
  exact List.pairwise_of_forall fun _ _ => rfl

/-- A statement for all rows shows the combinations that it keeps, in its order. -/
theorem Unpaged.evaluate_eq (h : Unpaged s) (storage : Storage)
    : evaluate v s storage = (inOrder v s (kept v s storage.contents)).map (shownOf s) := by
  have rows : s.mode ≠ .count := by simp [h.mode]
  have groups : (!s.groupBy.isEmpty || !s.aggregates.isEmpty) = false := by
    simp [h.groupBy, h.aggregates]
  have paired
      : (fun x : Contribution => (x.order, (s.columns.map (·.label)).zip x.cells))
          ∘ contribution v s
        = fun x => ((contribution v s x).order, shownOf s x) := by
    funext x
    simp only [Function.comp_apply, contribution, List.zip_map', shownOf]
  rw [evaluate, finish, if_neg rows, if_neg (by simp [groups]), List.map_map, paired, page]
  simp only [h.limit, h.offset, count?, Option.getD_none, List.drop_zero]
  rw [← List.map_insertionSort
    (fun x y =>
      v.ordered (s.orderBy.map (·.direction)) (contribution v s x).order (contribution v s y).order)
    _ _ _ fun _ _ _ _ => Iff.rfl, List.map_map]
  rfl

-----------------------------------------------------------------------------------------
-- Statements for plain rows of one table
-----------------------------------------------------------------------------------------

/-- A statement for selected columns of the rows of one table. -/
structure PlainRows (s : Statement String) : Prop extends s.SelectsColumns where
  joins : s.joins = []
  orderBy : s.orderBy = []
  limit : s.limit = .null
  offset : s.offset = .null
  columns : ∀ column ∈ s.columns, column.table = s.table.apiName
  conditions : ∀ f ∈ s.conditions, f.column.table = s.table.apiName

/-- The value of a column of a table in a combination of that table alone. -/
theorem value_alone {name : String} (row : Row) {column : ColumnName String}
    (of : column.table = name)
    : Combination.value [(name, row)] column = row.cell column.physicalName := by
  simp [Combination.value, of]

/-- The combinations that a statement for plain rows keeps are its rows that meet the
conditions.
-/
theorem PlainRows.kept_eq (h : PlainRows s) (contents : Contents)
    : kept v s contents
      = ((contents s.table).filter (meetsOwn v s.conditions)).map
        fun row => [(s.table.apiName, row)] := by
  rw [kept_eq_flatMap (by simp [h.joins, Chained]) h.conditions, h.joins, List.map_eq_flatMap]
  rfl

theorem PlainRows.unpaged (h : PlainRows s) : Unpaged s :=
  ⟨h.mode, h.groupBy, h.aggregates, h.limit, h.offset⟩

/-- A statement for plain rows shows those that meet its conditions, cut to its columns. -/
theorem PlainRows.evaluate_eq (h : PlainRows s) (storage : Storage)
    : evaluate v s storage
      = ((storage.contents s.table).filter (meetsOwn v s.conditions)).map
        fun row => s.columns.map fun column => (column.label, row.cell column.physicalName) := by
  rw [h.unpaged.evaluate_eq, inOrder_eq_self h.orderBy, h.kept_eq, List.map_map]
  refine List.map_congr_left fun row _ => ?_
  refine List.map_congr_left fun column member => ?_
  rw [value_alone row (h.columns column member)]

-----------------------------------------------------------------------------------------
-- Statements of lookups
-----------------------------------------------------------------------------------------

/-- Conventions by which values compare as they do elsewhere. -/
structure Conventions.ByValue (v : Conventions) : Prop where
  equal : ∀ a b, v.holds .equal a b = a.equals b
  differ : ∀ a b, v.holds .differ a b = !a.equals b

/-- A value is among ids when one of them is equal to it; no null is. -/
theorem Conventions.ByValue.meets_among (h : v.ByValue) {actual : Value}
    (present : actual.isNull = false) (ids : List Value)
    : v.meets (.known .among) actual (.list ids) = ids.any (·.equals actual) := by
  simp only [Conventions.meets, Value.elements?, Option.getD_some, present, Bool.not_false,
    Bool.true_and, h.equal]
  congr 1
  funext id
  cases null : id.isNull with
  | false => rfl
  | true =>
      cases same : id.equals actual with
      | false => rfl
      | true =>
          rw [Value.isNull_of_same (Value.equals_iff.mp same).2, present] at null
          cases null

end Semantics

/-- The physical name of the key column of a table. -/
def Catalog.keyName (c : Catalog) (name : String) : String :=
  match (c.table? name).bind (·.primaryKey.head?) with
  | some key => (c.columnName ⟨name, key, false⟩).physicalName
  | none => ""

/-- What a lookup makes of a stored row: its values of the selected columns, by label. -/
def Catalog.projected (c : Catalog) (selection : List ColumnRef) (row : Row) : Row :=
  selection.map fun ref => (ref.label, row.cell (c.columnName ref).physicalName)

namespace Statement

open Semantics

variable {c : Catalog} {q : Query} {context : Context} {p : Plan} {v : Conventions}
  {asked : List Value}

/-- The restriction of a lookup is of the key column to the ids of the plan. -/
theorem Resolvable.idsNamed_eq (h : Resolvable c q context p) {ids : List Value}
    (restricted : p.ids = some ids)
    : ∃ key,
        idsNamed c p
          = [⟨c.columnName ⟨q.source, key, false⟩, .known .among, .list ids, .ids⟩]
        ∧ (c.columnName ⟨q.source, key, false⟩).physicalName = c.keyName q.source := by
  have restricts := h.restrictsIds.1
  simp only [RestrictsIds, restricted] at restricts
  obtain ⟨t, key, found, single, same⟩ := restricts
  rw [h.query_eq] at found same
  exact ⟨key, same, by simp [Catalog.keyName, found, single]⟩

/-- The restriction to ids is on the table that a query starts from. -/
theorem Resolvable.table_of_mem_idsNamed (h : Resolvable c q context p)
    {f : Condition (ColumnName String)} (member : f ∈ idsNamed c p)
    : f.column.table = q.source := by
  cases restricted : p.ids with
  | none => simp [idsNamed, restricted] at member
  | some ids =>
      obtain ⟨key, same, _⟩ := h.idsNamed_eq restricted
      rw [same, List.mem_singleton] at member
      rw [member]
      rfl

/-- The conditions of a lookup are its restriction to ids and the row rules of its table. -/
theorem Resolvable.lookup_conditions_eq (h : Resolvable c q context p) (look : q.LooksUp asked)
    (engine : String)
    : (named c p engine).conditions
      = idsNamed c p ++ (c.rowConditions context q.source).map c.conditionNamed := by
  rw [h.conditions_eq, h.accepted.tableNames_eq]
  simp [Access.callerFilters, look.filters, look.joins, leftJoined]

/-- The statement of a lookup is for plain rows. -/
theorem Resolvable.plainRows (h : Resolvable c q context p) (look : q.LooksUp asked)
    (engine : String)
    : PlainRows (named c p engine) := by
  have apiName : (named c p engine).table.apiName = q.source := by
    rw [named, h.query_eq, tableNamed_apiName]
  constructor
  case toSelectsColumns =>
    constructor
    case distinct =>
      have labels := h.granted.labels_nodup h.accepted look.joins
      rwa [named, List.map_map]
    all_goals simp [named, h.query_eq, look.mode, look.groupBy, look.aggregations]
  case columns =>
    intro column member
    obtain ⟨ref, hr, rfl⟩ := List.mem_map.mp member
    rw [apiName]
    exact h.granted.table_eq_of_mem h.accepted look.joins hr
  case conditions =>
    intro f member
    rw [h.lookup_conditions_eq look] at member
    rw [apiName]
    rcases List.mem_append.mp member with restriction | row
    · exact h.table_of_mem_idsNamed restriction
    · exact table_of_mem_rowConditions row
  all_goals simp [named, h.query_eq, look.joins, look.orderBy, look.limit, look.offset,
    Value.ofOption]

/-- The statement of a lookup shows the visible rows whose key is equal to one of the ids. -/
theorem Resolvable.evaluate_lookup (h : Resolvable c q context p) (look : q.LooksUp asked)
    (engine : String) (byValue : v.ByValue) {ids : List Value} (restricted : p.ids = some ids)
    {rows : List Row} (present : ∀ row ∈ rows, (row.cell (c.keyName q.source)).isNull = false)
    : evaluate v (named c p engine) (fun _ => rows)
      = (rows.filter fun row =>
          ids.any (·.equals (row.cell (c.keyName q.source)))
          && visible v c context q.source row).map
        (c.projected p.granted.selection) := by
  rw [(h.plainRows look engine).evaluate_eq, h.lookup_conditions_eq look]
  obtain ⟨key, same, name⟩ := h.idsNamed_eq restricted
  have kept : ∀ row ∈ rows,
      meetsOwn v (idsNamed c p ++ (c.rowConditions context q.source).map c.conditionNamed) row
      = (ids.any (·.equals (row.cell (c.keyName q.source)))
          && visible v c context q.source row) := by
    intro row member
    rw [meetsOwn_append, meetsOwn_rowConditions, same, meetsOwn, List.all_cons, List.all_nil,
      Bool.and_true, name, byValue.meets_among (present row member)]
  simp only [Storage.contents, List.filter_congr kept]
  refine List.map_congr_left fun row _ => ?_
  rw [named, List.map_map]
  rfl

end Statement

end Polystore
