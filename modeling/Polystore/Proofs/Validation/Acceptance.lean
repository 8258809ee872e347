import Mathlib.Data.List.Nodup
import Polystore.Proofs.Entries.Firsts
import Polystore.Validation.Query

/-! What a query without issues is like. Its tables are known and distinct, each join follows
a relation from a table that is already there, and every reference is to a declared column.
-/

namespace Polystore.Validation

-----------------------------------------------------------------------------------------
-- Well-formed parts of a query
-----------------------------------------------------------------------------------------

/-- The column that a reference is to, of a table that is part of the query. -/
def RefersTo (c : Catalog) (q : Query) (reference : String) (column : Column) : Prop :=
  (q.ref reference).table ∈ q.tableNames
  ∧ ∃ t,
      c.table? (q.ref reference).table = some t
      ∧ t.column? (q.ref reference).column = some column

/-- A join along a declared relation, which selects declared columns only. -/
def Linked (c : Catalog) (source : String) (j : Join) : Prop :=
  ∀ origin target,
    c.table? source = some origin
    → c.table? j.table = some target
    → Catalog.relationsBetween origin target ≠ []
      ∧ ∀ name ∈ j.columns, ∃ column, target.column? name = some column

/-- Joins that can be made one after the other: each adds a table that is not yet there,
from one that is.
-/
def Joinable (c : Catalog) (q : Query) : List String → List Join → Prop
  | _, [] => True
  | joined, j :: rest =>
      j.table ∉ joined
      ∧ j.sourceIn q ∈ joined
      ∧ Linked c (j.sourceIn q) j
      ∧ Joinable c q (joined ++ [j.table]) rest

/-- A query whose parts are well formed. -/
structure Accepted (c : Catalog) (q : Query) : Prop where
  tables : ∀ name ∈ q.source :: q.joins.map (·.table), ∃ t, c.table? name = some t
  joins : Joinable c q [q.source] q.joins
  columns : ∀ reference ∈ q.columns, ∃ column, RefersTo c q reference column
  filters
    : ∀ f ∈ q.filters,
        ∃ column, RefersTo c q f.column column ∧ column.type.admits f.op
  someIds : q.byIds ≠ some []
  singleKey
    : ∀ t, q.byIds.isSome → c.table? q.source = some t → ∃ key, t.primaryKey = [key]
  groups : ∀ g ∈ q.groupBy, ∃ column, RefersTo c q g.column column
  labels : q.aggregateLabels.Nodup
  aggregates
    : ∀ a ∈ q.aggregations,
        ∀ reference, a.column = some reference → ∃ column, RefersTo c q reference column
  having : ∀ h ∈ q.having, h.label ∈ q.aggregateLabels
  order
    : ∀ o ∈ q.orderBy,
        o.column ∉ q.aggregateLabels → ∃ column, RefersTo c q o.column column

-----------------------------------------------------------------------------------------
-- A query without issues is well formed
-----------------------------------------------------------------------------------------

variable {α β : Type} {c : Catalog} {q : Query}

/-- Items whose lists join to nothing have no list at any index, by induction on the items. -/
theorem eachFrom_eq_nil {f : Nat → α → List β} {i : Nat} {items : List α}
    (h : eachFrom f i items = [])
    : ∀ a ∈ items, ∃ k, f k a = [] := by
  induction items generalizing i with
  | nil => simp
  | cons a rest ih =>
      obtain ⟨here, later⟩ := List.append_eq_nil_iff.mp h
      intro b member
      rcases List.mem_cons.mp member with rfl | member
      · exact ⟨i, here⟩
      · exact ih later b member

/-- A reference without issues is to a column whose own issues are none. -/
theorem withColumn_eq_nil {field reference : String} {issues : Column → List Issue}
    (h : withColumn c q field reference issues = [])
    (tables : ∀ name ∈ q.tableNames, ∃ t, c.table? name = some t)
    : ∃ column, RefersTo c q reference column ∧ issues column = [] := by
  unfold withColumn resolve at h
  by_cases member : (q.ref reference).table ∈ q.tableNames
  · obtain ⟨t, found⟩ := tables _ member
    cases declared : t.column? (q.ref reference).column with
    | none => simp [member, found, declared] at h
    | some column =>
        simp only [member, found, declared, if_true] at h
        exact ⟨column, ⟨member, t, found, declared⟩, h⟩
  · simp [member] at h

/-- A join without issues is linked: both of its tables are known here. -/
theorem linked_of_linkIssues {i : Nat} {source : String} {j : Join}
    (h : linkIssues c i source j = [])
    : Linked c source j := by
  intro origin target horigin htarget
  simp only [linkIssues, horigin, htarget, List.append_eq_nil_iff] at h
  constructor
  · intro unrelated
    simp [unrelated] at h
  · intro name member
    obtain ⟨k, hk⟩ := eachFrom_eq_nil h.2 name member
    cases declared : target.column? name with
    | none => simp [declared] at hk
    | some column => exact ⟨column, rfl⟩

/-- Joins without issues can be made, by induction on the joins. -/
theorem joinable_of_joinIssuesFrom {joined : List String} {i : Nat} {joins : List Join}
    (h : joinIssuesFrom c q joined i joins = [])
    : Joinable c q joined joins := by
  induction joins generalizing joined i with
  | nil => trivial
  | cons j rest ih =>
      unfold joinIssuesFrom at h
      by_cases again : j.table ∈ joined
      · simp [again] at h
      · simp only [again, if_false, List.append_eq_nil_iff] at h
        by_cases present : j.sourceIn q ∈ joined
        · simp only [present, if_true] at h
          exact ⟨again, present, linked_of_linkIssues h.1, ih h.2⟩
        · simp [present] at h

/-- Aggregates without issues have distinct labels, none of them taken before, and refer to
declared columns, by induction on the aggregates.
-/
theorem aggregates_of_aggregateIssuesFrom {labels : List String} {i : Nat}
    {aggregations : List Aggregation}
    (h : aggregateIssuesFrom c q labels i aggregations = [])
    (tables : ∀ name ∈ q.tableNames, ∃ t, c.table? name = some t)
    : (aggregations.map (·.label)).Nodup
      ∧ (∀ a ∈ aggregations, a.label ∉ labels)
      ∧ ∀ a ∈ aggregations,
          ∀ reference, a.column = some reference → ∃ column, RefersTo c q reference column := by
  induction aggregations generalizing labels i with
  | nil => simp
  | cons a rest ih =>
      simp only [aggregateIssuesFrom, List.append_eq_nil_iff] at h
      obtain ⟨⟨fresh, column⟩, later⟩ := h
      obtain ⟨nodup, apart, declared⟩ := ih later
      have new : a.label ∉ labels := by
        intro taken
        simp [taken] at fresh
      refine ⟨?_, ?_, ?_⟩
      · rw [List.map_cons, List.nodup_cons]
        refine ⟨fun repeats => ?_, nodup⟩
        obtain ⟨b, hb, same⟩ := List.mem_map.mp repeats
        exact apart b hb (by simp [same])
      · intro b member
        rcases List.mem_cons.mp member with rfl | member
        · exact new
        · exact fun taken => apart b member (List.mem_append_left _ taken)
      · intro b member reference named
        rcases List.mem_cons.mp member with rfl | member
        · simp only [named] at column
          obtain ⟨found, refers, _⟩ := withColumn_eq_nil column tables
          exact ⟨found, refers⟩
        · exact declared b member reference named

/-- Tables without issues are known. -/
theorem tables_of_tableIssues (h : tableIssues c q = [])
    : ∀ name ∈ q.source :: q.joins.map (·.table), ∃ t, c.table? name = some t := by
  have known {field name : String} (h : tableIssue c field name = [])
      : ∃ t, c.table? name = some t := by
    unfold tableIssue at h
    cases found : c.table? name with
    | none => simp [found] at h
    | some t => exact ⟨t, rfl⟩
  obtain ⟨source, joins⟩ := List.append_eq_nil_iff.mp h
  intro name member
  rcases List.mem_cons.mp member with rfl | member
  · exact known source
  · obtain ⟨j, hj, rfl⟩ := List.mem_map.mp member
    obtain ⟨_, hk⟩ := eachFrom_eq_nil joins j hj
    exact known hk

/-- A query without issues is accepted, clause by clause. -/
theorem accepted_of_issues (h : issues c q = []) : Accepted c q := by
  simp only [issues, columnIssues, aggregationIssues, List.append_eq_nil_iff] at h
  obtain ⟨⟨⟨⟨⟨⟨hTables, hJoins⟩, hColumns, hOrder⟩, hFilters⟩, hIds⟩,
    ⟨⟨⟨_, hGroups⟩, hAggregates⟩, _⟩, hHaving⟩, _⟩ := h
  have known := tables_of_tableIssues hTables
  have tables : ∀ name ∈ q.tableNames, ∃ t, c.table? name = some t :=
    fun name member => known name (List.mem_eraseDups.mp member)
  have aggregates := aggregates_of_aggregateIssuesFrom hAggregates tables
  constructor
  case tables => exact known
  case joins => exact joinable_of_joinIssuesFrom hJoins
  case columns =>
    intro reference member
    obtain ⟨_, hk⟩ := eachFrom_eq_nil hColumns reference member
    obtain ⟨column, refers, _⟩ := withColumn_eq_nil hk tables
    exact ⟨column, refers⟩
  case filters =>
    intro f member
    obtain ⟨_, hk⟩ := eachFrom_eq_nil hFilters f member
    obtain ⟨column, refers, suits⟩ := withColumn_eq_nil hk tables
    refine ⟨column, refers, ?_⟩
    by_contra refused
    simp [refused] at suits
  case someIds =>
    intro noIds
    simp [idIssues, noIds] at hIds
  case singleKey =>
    intro t asked found
    obtain ⟨ids, hids⟩ := Option.isSome_iff_exists.mp asked
    simp only [idIssues, hids, found, List.append_eq_nil_iff] at hIds
    apply List.length_eq_one_iff.mp
    by_contra several
    simp [several] at hIds
  case groups =>
    intro g member
    obtain ⟨_, hk⟩ := eachFrom_eq_nil hGroups g member
    obtain ⟨column, refers, _⟩ := withColumn_eq_nil hk tables
    exact ⟨column, refers⟩
  case labels => exact aggregates.1
  case aggregates => exact aggregates.2.2
  case having =>
    intro having member
    obtain ⟨_, hk⟩ := eachFrom_eq_nil hHaving having member
    by_contra unknown
    simp [unknown] at hk
  case order =>
    intro o member notLabel
    obtain ⟨_, hk⟩ := eachFrom_eq_nil hOrder o member
    simp only [notLabel, if_false] at hk
    obtain ⟨column, refers, _⟩ := withColumn_eq_nil hk tables
    exact ⟨column, refers⟩

-----------------------------------------------------------------------------------------
-- What else a query without issues promises
-----------------------------------------------------------------------------------------

/-- The value of a filter has no issues of its own. -/
theorem exists_valueIssues_eq_nil (h : issues c q = []) {f : Filter} (member : f ∈ q.filters)
    : ∃ field, valueIssues field f = [] := by
  have tables : ∀ name ∈ q.tableNames, ∃ t, c.table? name = some t :=
    fun name member => (accepted_of_issues h).tables name (List.mem_eraseDups.mp member)
  simp only [issues, List.append_eq_nil_iff] at h
  obtain ⟨⟨⟨⟨_, filters⟩, _⟩, _⟩, _⟩ := h
  obtain ⟨i, none⟩ := eachFrom_eq_nil filters f member
  obtain ⟨column, _, suits⟩ := withColumn_eq_nil none tables
  split at suits
  · exact ⟨_, suits⟩
  · cases suits

/-- Membership is in lists only. -/
theorem list_of_among (h : issues c q = []) {f : Filter} (member : f ∈ q.filters)
    (among : f.op = .among)
    : ∃ items, f.value = .list items := by
  obtain ⟨field, suits⟩ := exists_valueIssues_eq_nil h member
  simp only [valueIssues, among, Operator.isNullCheck, Bool.false_eq_true, if_false,
    if_true] at suits
  split at suits
  next first rest listed => exact ⟨_, listed⟩
  · cases suits

/-- Comparisons are with single values only, and never with null. -/
theorem scalar_of_comparison (h : issues c q = []) {f : Filter} (member : f ∈ q.filters)
    (check : f.op.isNullCheck = false) (among : f.op ≠ .among)
    : f.value.isNull = false ∧ f.value.isCollection = false := by
  obtain ⟨field, suits⟩ := exists_valueIssues_eq_nil h member
  simp only [valueIssues, check, among, Bool.false_eq_true, if_false] at suits
  cases null : f.value.isNull with
  | true => simp [null] at suits
  | false =>
      cases collection : f.value.isCollection with
      | true => simp [null, collection] at suits
      | false => exact ⟨rfl, rfl⟩

/-- Aggregates that name no column count rows, by induction on the aggregates. -/
theorem count_of_aggregateIssuesFrom {labels : List String} {i : Nat}
    {aggregations : List Aggregation} (h : aggregateIssuesFrom c q labels i aggregations = [])
    {a : Aggregation} (member : a ∈ aggregations) (rows : a.column = none)
    : a.fn = .count := by
  induction aggregations generalizing labels i with
  | nil => cases member
  | cons first rest ih =>
      simp only [aggregateIssuesFrom, List.append_eq_nil_iff] at h
      obtain ⟨⟨_, column⟩, later⟩ := h
      rcases List.mem_cons.mp member with rfl | member
      · by_contra other
        simp [rows, other] at column
      · exact ih later member

theorem count_of_no_column (h : issues c q = []) {a : Aggregation} (member : a ∈ q.aggregations)
    (rows : a.column = none)
    : a.fn = .count := by
  simp only [issues, aggregationIssues, List.append_eq_nil_iff] at h
  obtain ⟨⟨_, ⟨⟨⟨_, _⟩, aggregates⟩, _⟩, _⟩, _⟩ := h
  exact count_of_aggregateIssuesFrom aggregates member rows

/-- A query that counts rows does not aggregate. -/
theorem not_aggregate_of_count (h : issues c q = []) (counts : q.mode = .count)
    : q.isAggregate = false := by
  simp only [issues, aggregationIssues, List.append_eq_nil_iff] at h
  obtain ⟨⟨_, ⟨⟨⟨apart, _⟩, _⟩, _⟩, _⟩, _⟩ := h
  by_contra both
  simp [counts, both] at apart

/-- A query that aggregates selects nothing from its joins. -/
theorem columns_eq_nil_of_aggregate (h : issues c q = []) (aggregate : q.isAggregate = true)
    {j : Join} (member : j ∈ q.joins)
    : j.columns = [] := by
  simp only [issues, aggregationIssues, ungroupedIssues, aggregate, if_true,
    List.append_eq_nil_iff] at h
  obtain ⟨⟨_, ⟨_, _, joined⟩, _⟩, _⟩ := h
  obtain ⟨_, none⟩ := eachFrom_eq_nil joined j member
  by_contra selected
  simp [selected] at none

-----------------------------------------------------------------------------------------
-- The tables of an accepted query
-----------------------------------------------------------------------------------------

/-- Joinable tables are distinct, and none is among those already joined. -/
theorem Joinable.nodup {joined : List String} {joins : List Join}
    (h : Joinable c q joined joins) (distinct : joined.Nodup)
    : (joined ++ joins.map (·.table)).Nodup := by
  induction joins generalizing joined with
  | nil => simpa using distinct
  | cons j rest ih =>
      obtain ⟨new, _, _, later⟩ := h
      have extended : (joined ++ [j.table]).Nodup :=
        List.Nodup.append distinct (by simp) (by simpa using new)
      simpa using ih later extended

/-- The tables of an accepted query are the one it starts from and the joined ones. -/
theorem Accepted.tableNames_eq (h : Accepted c q)
    : q.tableNames = q.source :: q.joins.map (·.table) :=
  eraseDups_of_nodup (by simpa using h.joins.nodup (by simp))

/-- An accepted query touches no table twice. -/
theorem Accepted.tableNames_nodup (h : Accepted c q) : q.tableNames.Nodup := by
  rw [h.tableNames_eq]
  simpa using h.joins.nodup (by simp)

/-- Every join is from a table that was there before it, along a relation. -/
theorem Joinable.join {joined : List String} {joins : List Join} (h : Joinable c q joined joins)
    {j : Join} (member : j ∈ joins)
    : j.sourceIn q ∈ joined ++ joins.map (·.table) ∧ Linked c (j.sourceIn q) j := by
  induction joins generalizing joined with
  | nil => simp at member
  | cons first rest ih =>
      obtain ⟨_, present, linked, later⟩ := h
      rcases List.mem_cons.mp member with rfl | member
      · exact ⟨List.mem_append_left _ present, linked⟩
      · simpa using ih later member

/-- An accepted query touches the tables that it joins. -/
theorem Accepted.joined_mem (h : Accepted c q) {j : Join} (member : j ∈ q.joins)
    : j.table ∈ q.tableNames := by
  rw [h.tableNames_eq]
  exact List.mem_cons_of_mem _ (List.mem_map.mpr ⟨j, member, rfl⟩)

/-- An accepted query touches the tables that it joins others to. -/
theorem Accepted.sourceIn_mem (h : Accepted c q) {j : Join} (member : j ∈ q.joins)
    : j.sourceIn q ∈ q.tableNames := by
  rw [h.tableNames_eq]
  exact (h.joins.join member).1

end Polystore.Validation
