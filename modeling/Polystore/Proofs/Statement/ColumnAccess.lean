import Polystore.Proofs.Statement.Placement

/-! Which columns a caller can bring into a statement. Every clause that the caller writes is
checked against the rule of the role, while the key column that a look-up by ids restricts is
not; the caller's columns are all permitted exactly when that one is.
-/

namespace Polystore

-----------------------------------------------------------------------------------------
-- Permitted columns and the columns of the caller
-----------------------------------------------------------------------------------------

/-- Whether a rule lets a column of a name be read. -/
def AllowedColumns.Admits : AllowedColumns → String → Prop
  | .all, _ => True
  | .only names, name => name ∈ names

/-- A column that a rule leaves of a table is one that the rule admits. -/
theorem Access.admits_of_mem_allowed {t : Table} {rule : TableRule} {name : String}
    (member : name ∈ Access.allowedColumns t rule)
    : rule.allowed.Admits name ∧ ∃ column, t.column? name = some column := by
  unfold Access.allowedColumns at member
  split at member
  next all => exact ⟨by rw [all]; trivial, Table.column?_of_mem member⟩
  next names only =>
    obtain ⟨declared, listed⟩ := List.mem_filter.mp member
    exact ⟨by rw [only]; simpa [AllowedColumns.Admits] using listed, Table.column?_of_mem declared⟩

/-- Whether a column of a statement is one that the role's rule for its table lets be read. -/
def Catalog.Permits (c : Catalog) (context : Context) (column : Statement.ColumnName String)
    : Prop :=
  ∃ t rule name declared,
    c.table? column.table = some t
    ∧ c.rule? context.role t = some rule
    ∧ rule.allowed.Admits name
    ∧ t.column? name = some declared
    ∧ declared.physicalName = column.physicalName

namespace Statement

/-- The columns of the conditions that come from somewhere. -/
def restricted (s : Statement String) (source : Source) : List (ColumnName String) :=
  (s.conditions.filter (·.source == source)).map (·.column)

/-- The columns that the caller names or selects by default: those of every clause but the
restriction to ids, the row rules and the equalities that tables are joined by.
-/
def chosenColumns (s : Statement String) : List (ColumnName String) :=
  s.columns
    ++ s.restricted .caller
    ++ s.groupBy.map (·.column)
    ++ s.aggregates.filterMap (·.column)
    ++ s.having.filterMap (·.aggregate.column)
    ++ s.orderBy.filterMap fun o =>
      match o.key with
      | .column column _ => some column
      | _ => none

/-- All columns that the caller brings in, the one that is restricted to ids with the others. -/
def callerColumns (s : Statement String) : List (ColumnName String) :=
  s.chosenColumns ++ s.restricted .ids

variable {c : Catalog} {q : Query} {context : Context} {p : Plan}

/-- What access control allows is permitted in the statement. -/
theorem Resolvable.permits_of_allows (h : Resolvable c q context p) {ref : ColumnRef}
    (allows : Access.Allows p.granted ref)
    : c.Permits context (c.columnName ref) := by
  obtain ⟨_, declared, found⟩ := h.declared_of_allows allows
  obtain ⟨scope, looked, listed⟩ := allows
  obtain ⟨_, rule, rights⟩ := h.granted.scopes_of_lookup looked
  refine ⟨scope.table, rule, ref.column, declared, rights.table, rights.ruled, ?_, ?_, ?_⟩
  · rw [rights.allowed] at listed
    exact (Access.admits_of_mem_allowed listed).1
  · simpa only [Catalog.refColumn?, rights.table, Option.bind_some] using found
  · simp only [Catalog.columnName, found, Option.getD_some]

-----------------------------------------------------------------------------------------
-- Clause by clause
-----------------------------------------------------------------------------------------

/-- The column of an aggregate is one that the caller refers to. -/
theorem Resolvable.referenced_of_aggregate (h : Resolvable c q context p) {a : Aggregation}
    (member : a ∈ q.aggregations) {column : ColumnName String}
    (has : (aggregateNamed c p a).column = some column)
    : ∃ ref ∈ Access.referencedColumns q, column = c.columnName ref := by
  simp only [aggregateNamed, h.query_eq] at has
  split at has
  · cases has
  next reference named =>
    split at has
    · cases has
    next nonempty =>
      cases has
      exact ⟨_, Access.ref_mem_of_aggregate member named (by simpa using nonempty), rfl⟩

/-- The columns that the caller chooses are what allowed references are called, clause by clause. -/
theorem Resolvable.allowed_of_chosenColumns (h : Resolvable c q context p) {engine : String}
    {column : ColumnName String} (member : column ∈ (named c p engine).chosenColumns)
    : ∃ ref, Access.Allows p.granted ref ∧ column = c.columnName ref := by
  have allowed {ref : ColumnRef} (referenced : ref ∈ Access.referencedColumns q)
      : Access.Allows p.granted ref := h.granted.allowed ref referenced
  simp only [chosenColumns, List.mem_append, or_assoc] at member
  rcases member with select | restrict | group | aggregate | having | order
  · obtain ⟨ref, hselect, rfl⟩ := List.mem_map.mp select
    exact ⟨ref, h.granted.allows_of_selection hselect, rfl⟩
  · obtain ⟨f, hf, rfl⟩ := List.mem_map.mp restrict
    obtain ⟨hf, source⟩ := List.mem_filter.mp hf
    rw [h.conditions_eq, List.map_append, List.mem_append, List.mem_append] at hf
    rcases hf with ids | own | row
    · simp [h.restrictsIds.2 f ids] at source
    · obtain ⟨own, hown, rfl⟩ := List.mem_map.mp own
      obtain ⟨filter, hfilter, rfl⟩ := List.mem_map.mp hown
      exact ⟨_, allowed (Access.ref_mem_of_filter hfilter), rfl⟩
    · obtain ⟨rule, hrule, rfl⟩ := List.mem_map.mp row
      obtain ⟨name, _, hrule⟩ := List.mem_flatMap.mp hrule
      simp [Catalog.conditionNamed, Condition.on, (of_mem_rowConditions hrule).1] at source
  · obtain ⟨g, hg, rfl⟩ := List.mem_map.mp group
    rw [named, h.query_eq] at hg
    obtain ⟨item, hitem, rfl⟩ := List.mem_map.mp hg
    rw [groupNamed, h.query_eq]
    exact ⟨_, allowed (Access.ref_mem_of_group hitem), rfl⟩
  · obtain ⟨a, ha, has⟩ := List.mem_filterMap.mp aggregate
    rw [named, h.query_eq] at ha
    obtain ⟨item, hitem, rfl⟩ := List.mem_map.mp ha
    obtain ⟨ref, referenced, same⟩ := h.referenced_of_aggregate hitem has
    exact ⟨ref, allowed referenced, same⟩
  · obtain ⟨predicate, hpredicate, has⟩ := List.mem_filterMap.mp having
    rw [named, h.query_eq] at hpredicate
    obtain ⟨item, hitem, rfl⟩ := List.mem_map.mp hpredicate
    obtain ⟨a, found⟩ := h.find_aggregate hitem
    simp only [havingNamed, h.query_eq, found, Option.elim_some] at has
    obtain ⟨ref, referenced, same⟩ :=
      h.referenced_of_aggregate (List.mem_of_find?_eq_some found) has
    exact ⟨ref, allowed referenced, same⟩
  · obtain ⟨o, ho, has⟩ := List.mem_filterMap.mp order
    rw [named, h.query_eq] at ho
    obtain ⟨item, hitem, rfl⟩ := List.mem_map.mp ho
    simp only [orderNamed, h.query_eq] at has
    by_cases label : item.column ∈ q.aggregateLabels
    · simp [label] at has
    · simp only [label, if_false, Option.some.injEq] at has
      exact ⟨_, allowed (Access.ref_mem_of_order hitem label), has.symm⟩

/-- The columns that the caller chooses are permitted. -/
theorem Resolvable.permits_of_chosenColumns (h : Resolvable c q context p) {engine : String}
    {column : ColumnName String} (member : column ∈ (named c p engine).chosenColumns)
    : c.Permits context column := by
  obtain ⟨ref, allows, rfl⟩ := h.allowed_of_chosenColumns member
  exact h.permits_of_allows allows

-----------------------------------------------------------------------------------------
-- What column access comes to
-----------------------------------------------------------------------------------------

/-- A plan that needs a statement has ids exactly where the query asks for ids. -/
theorem Resolvable.ids_isSome (h : Resolvable c q context p) {engine : String}
    (needed : p.engine = some engine)
    : p.ids.isSome ↔ q.byIds.isSome := by
  have asks : q.byIds.isSome ↔ q.idList ≠ [] := by
    have someIds := h.accepted.someIds
    cases ids : q.byIds with
    | none => simp [Query.idList, ids]
    | some values => simpa [Query.idList, ids] using someIds
  rw [asks, ← h.granted.query]
  exact ⟨h.planned.restricted, h.planned.asked (by simp [Plan.needsSql, needed])⟩

/-- The column that is restricted to ids is the single key column of the table that the query
starts from, where the query asks for ids, and there is none where it does not.
-/
theorem Resolvable.mem_restricted_ids (h : Resolvable c q context p) {engine : String}
    (needed : p.engine = some engine) {column : ColumnName String}
    : column ∈ (named c p engine).restricted .ids
      ↔ ∃ t key,
          q.byIds.isSome
          ∧ c.table? q.source = some t
          ∧ t.primaryKey = [key]
          ∧ column = c.columnName ⟨q.source, key, false⟩ := by
  have onlyIds : (named c p engine).restricted .ids = (idsNamed c p).map (·.column) := by
    have none
        : ((Access.callerFilters q
            ++ (q.tableNames.filter fun name => !(leftJoined q).contains name).flatMap
              (c.rowConditions context)).map c.conditionNamed).filter (·.source == .ids) = [] := by
      rw [List.filter_eq_nil_iff]
      intro f member
      obtain ⟨f, hf, rfl⟩ := List.mem_map.mp member
      rcases List.mem_append.mp hf with own | row
      · simp [Catalog.conditionNamed, Condition.on, of_mem_callerFilters own]
      · obtain ⟨name, _, hrow⟩ := List.mem_flatMap.mp row
        simp [Catalog.conditionNamed, Condition.on, (of_mem_rowConditions hrow).1]
    have all : (idsNamed c p).filter (·.source == .ids) = idsNamed c p := by
      rw [List.filter_eq_self]
      intro f member
      simp [h.restrictsIds.2 f member]
    rw [restricted, h.conditions_eq, List.filter_append, none, all, List.append_nil]
  have restricts := h.restrictsIds.1
  rw [onlyIds]
  cases ids : p.ids with
  | none =>
      have notAsked : ¬ q.byIds.isSome := by
        intro asked
        have present := (h.ids_isSome needed).mpr asked
        simp [ids] at present
      simp only [RestrictsIds, ids] at restricts
      simp [restricts, notAsked]
  | some values =>
      have asked : q.byIds.isSome := (h.ids_isSome needed).mp (by simp [ids])
      simp only [RestrictsIds, ids, h.query_eq] at restricts
      obtain ⟨t, key, found, single, same⟩ := restricts
      simp [same, asked, found, single]

/-- The columns of a caller's statement are permitted exactly when its restriction to ids is,
which is not checked. All that the caller chooses otherwise is permitted, and what stands in
the joins besides their equalities are row rules.
-/
theorem callerColumns_permitted_iff {s : ScopedQuery} {facilities : Facilities}
    {tolerance : Freshness} {statement : Statement String}
    (valid : Validation.issues c q = [])
    (granted : (Access.apply c q context).result = .ok s)
    (planned : (Planning.plan c facilities s context tolerance).result = .ok p)
    (resolved : (resolve p).result = .ok statement)
    : (∀ column ∈ statement.chosenColumns, c.Permits context column)
      ∧ ((∀ column ∈ statement.callerColumns, c.Permits context column)
          ↔ (q.byIds.isSome
              → ∀ t key,
                  c.table? q.source = some t
                  → t.primaryKey = [key]
                  → c.Permits context (c.columnName ⟨q.source, key, false⟩)))
      ∧ ∀ join ∈ statement.joins, ∀ f ∈ join.conditions, f.source = .rowRule := by
  have h := resolvable_of_plan valid granted planned
  obtain ⟨engine, needed, rfl⟩ := h.eq_named resolved
  have chosen : ∀ column ∈ (named c p engine).chosenColumns, c.Permits context column :=
    fun column member => h.permits_of_chosenColumns member
  refine ⟨chosen, ?_, (h.placed engine).noCaller⟩
  constructor
  · intro permitted asked t key found single
    apply permitted
    exact List.mem_append_right _
      ((h.mem_restricted_ids needed).mpr ⟨t, key, asked, found, single, rfl⟩)
  · intro keyPermitted column member
    rcases List.mem_append.mp member with other | restricted
    · exact chosen column other
    · obtain ⟨t, key, asked, found, single, rfl⟩ := (h.mem_restricted_ids needed).mp restricted
      exact keyPermitted asked t key found single

end Statement

namespace Sample

/-- A clerk, who may not read the key of orders, restricts it to ids nevertheless. -/
theorem query_restricts_hidden_key
    : ∃ s p statement column,
        Validation.issues catalog query = []
        ∧ (Access.apply catalog query context).result = .ok s
        ∧ (Planning.plan catalog facilities s context .hours).result = .ok p
        ∧ (Statement.resolve p).result = .ok statement
        ∧ column ∈ statement.callerColumns
        ∧ ¬ catalog.Permits context column := by
  obtain ⟨s, p, statement, granted, planned, resolved⟩
      : ∃ s p statement,
          (Access.apply catalog query context).result = .ok s
          ∧ (Planning.plan catalog facilities s context .hours).result = .ok p
          ∧ (Statement.resolve p).result = .ok statement :=
    ⟨_, _, _, rfl, rfl, rfl⟩
  have h := Statement.resolvable_of_plan (by rfl) granted planned
  obtain ⟨engine, needed, rfl⟩ := h.eq_named resolved
  refine ⟨s, p, _, catalog.columnName ⟨"orders", "id", false⟩, rfl, granted, planned, resolved,
    List.mem_append_right _ ((h.mem_restricted_ids needed).mpr ⟨orders, "id", rfl, rfl, rfl, rfl⟩),
    ?_⟩
  rintro ⟨t, rule, name, declared, ht, hrule, admitted, found, same⟩
  obtain rfl : orders = t := Option.some.inj ht
  obtain rfl := Option.some.inj hrule
  simp only [AllowedColumns.Admits, List.mem_cons, List.not_mem_nil, or_false] at admitted
  rcases admitted with rfl | rfl
  · cases found
    exact absurd same (by decide)
  · cases found
    exact absurd same (by decide)

/-- The clerk's other columns are permitted, and the key of orders is what keeps the rest from
being so.
-/
theorem query_columns_permitted
    : ∃ s p statement,
        (Access.apply catalog query context).result = .ok s
        ∧ (Planning.plan catalog facilities s context .hours).result = .ok p
        ∧ (Statement.resolve p).result = .ok statement
        ∧ (∀ column ∈ statement.chosenColumns, catalog.Permits context column)
        ∧ ((∀ column ∈ statement.callerColumns, catalog.Permits context column)
            ↔ catalog.Permits context (catalog.columnName ⟨"orders", "id", false⟩)) := by
  obtain ⟨s, p, statement, granted, planned, resolved⟩
      : ∃ s p statement,
          (Access.apply catalog query context).result = .ok s
          ∧ (Planning.plan catalog facilities s context .hours).result = .ok p
          ∧ (Statement.resolve p).result = .ok statement :=
    ⟨_, _, _, rfl, rfl, rfl⟩
  obtain ⟨chosen, exactly, _⟩ :=
    Statement.callerColumns_permitted_iff (by rfl) granted planned resolved
  refine ⟨s, p, statement, granted, planned, resolved, chosen, exactly.trans ?_⟩
  constructor
  · intro permitted
    exact permitted rfl orders "id" rfl rfl
  · intro permitted _ t key found single
    cases found
    cases single
    exact permitted

end Sample

end Polystore
