import Mathlib.Data.List.Perm.Basic
import Polystore.Proofs.Sql.Conjuncts
import Polystore.Proofs.Statement.Naming

/-! Where the conditions of a statement stand. The restriction to ids, the caller's filters and
the row rules of most tables stand behind one another in the statement, and the row rules of a
left-joined table stand in its join; none is lost, repeated or moved elsewhere.
-/

namespace Polystore

/-- The conditions that the rule of a role sets on a table, in the order of the rule. -/
def Catalog.rowConditions (c : Catalog) (context : Context) (name : String)
    : List (Condition ColumnRef) :=
  match c.table? name with
  | none => []
  | some t =>
      match c.rule? context.role t with
      | none => []
      | some rule => rule.rows.map (RowRule.conditionOn context name)

namespace Statement

-----------------------------------------------------------------------------------------
-- The row rules among the filters
-----------------------------------------------------------------------------------------

variable {c : Catalog} {q : Query} {context : Context} {p : Plan}

theorem rows_of_scopes {name : String} {rule : TableRule} {scope : Scope}
    (h : Access.Scopes c context name rule scope)
    : scope.rows = c.rowConditions context name := by
  simp only [Catalog.rowConditions, h.table, h.ruled, h.rows]

/-- The filters of a granted query are the caller's and, behind them, the conditions that the
rules set on its tables, table by table.
-/
theorem filters_eq {s : ScopedQuery} (h : Access.Granted c q context s)
    : s.filters = Access.callerFilters q ++ q.tableNames.flatMap (c.rowConditions context) := by
  rw [h.filters]
  congr 1
  have aligned := h.scopes
  generalize q.tableNames = names at aligned ⊢
  generalize s.scopes = scopes at aligned ⊢
  unfold Entries.values
  induction aligned with
  | nil => rfl
  | cons head _ ih =>
      obtain ⟨rfl, rule, rights⟩ := head
      simp only [List.map_cons, List.flatMap_cons, rows_of_scopes rights, ih]

/-- A condition that a rule sets on a table is marked as such. -/
theorem of_mem_rowConditions {name : String} {f : Condition ColumnRef}
    (member : f ∈ c.rowConditions context name)
    : f.source = .rowRule ∧ f.column.table = name := by
  unfold Catalog.rowConditions at member
  split at member
  · simp at member
  · split at member
    · simp at member
    · obtain ⟨rule, _, rfl⟩ := List.mem_map.mp member
      exact ⟨rfl, rfl⟩

theorem of_mem_callerFilters {f : Condition ColumnRef} (member : f ∈ Access.callerFilters q)
    : f.source = .caller := by
  obtain ⟨filter, _, rfl⟩ := List.mem_map.mp member
  rfl

/-- The caller's filters never stay in a join. -/
theorem staysInJoin_caller {f : Condition ColumnRef} (member : f ∈ Access.callerFilters q)
    : staysInJoin q f = false := by
  simp [staysInJoin, of_mem_callerFilters member]

/-- The condition of a row rule stays in a join exactly when its table is left-joined. -/
theorem staysInJoin_row {name : String} {f : Condition ColumnRef}
    (member : f ∈ c.rowConditions context name)
    : staysInJoin q f = (leftJoined q).contains name := by
  obtain ⟨source, table⟩ := of_mem_rowConditions member
  simp [staysInJoin, source, table]

/-- A filter that decides all items alike keeps all of them or none. -/
theorem filter_eq_ite {α : Type} {items : List α} {keep : α → Bool} {b : Bool}
    (alike : ∀ a ∈ items, keep a = b)
    : items.filter keep = if b then items else [] := by
  cases b with
  | true => simpa using alike
  | false => simpa using alike

/-- The filters that do not stay in joins are the caller's and the row rules of the tables
that are not left-joined.
-/
theorem outside_eq (names : List String)
    : (Access.callerFilters q ++ names.flatMap (c.rowConditions context)).filter
        (fun f => !staysInJoin q f)
      = Access.callerFilters q
        ++ (names.filter fun name => !(leftJoined q).contains name).flatMap
          (c.rowConditions context) := by
  rw [List.filter_append]
  congr 1
  · rw [List.filter_eq_self]
    intro f member
    rw [staysInJoin_caller member, Bool.not_false]
  · induction names with
    | nil => rfl
    | cons name rest ih =>
        rw [List.flatMap_cons, List.filter_append, ih, List.filter_cons]
        have same : (c.rowConditions context name).filter (fun f => !staysInJoin q f)
            = if !(leftJoined q).contains name then c.rowConditions context name else [] :=
          filter_eq_ite fun f member => by rw [staysInJoin_row member]
        rw [same]
        cases (leftJoined q).contains name <;> simp

/-- The filters that stay in the join of a table are the row rules of that table, if it is
left-joined, by induction on the tables, of which none occurs twice.
-/
theorem inside_eq {names : List String} (distinct : names.Nodup) {table : String}
    (member : table ∈ names)
    : (Access.callerFilters q ++ names.flatMap (c.rowConditions context)).filter
        (fun f => staysInJoin q f && f.column.table == table)
      = if table ∈ leftJoined q then c.rowConditions context table else [] := by
  have noCaller
      : (Access.callerFilters q).filter (fun f => staysInJoin q f && f.column.table == table)
        = [] := by
    rw [List.filter_eq_nil_iff]
    intro f own
    simp [staysInJoin_caller own]
  have ofTable (name : String)
      : (c.rowConditions context name).filter
          (fun f => staysInJoin q f && f.column.table == table)
        = if (leftJoined q).contains name && name == table then c.rowConditions context name
          else [] :=
    filter_eq_ite fun f row => by rw [staysInJoin_row row, (of_mem_rowConditions row).2]
  rw [List.filter_append, noCaller, List.nil_append]
  induction names with
  | nil => simp at member
  | cons name rest ih =>
      obtain ⟨new, later⟩ := List.nodup_cons.mp distinct
      rw [List.flatMap_cons, List.filter_append, ofTable]
      rcases List.mem_cons.mp member with rfl | behind
      · have others
            : (rest.flatMap (c.rowConditions context)).filter
                (fun f => staysInJoin q f && f.column.table == table) = [] := by
          rw [List.filter_flatMap, List.flatMap_eq_nil_iff]
          intro other hother
          have different : other ≠ table := fun same => new (same ▸ hother)
          rw [ofTable, beq_false_of_ne different, Bool.and_false]
          rfl
        rw [others, List.append_nil]
        simp
      · have different : name ≠ table := fun same => new (same ▸ behind)
        rw [ih later behind, beq_false_of_ne different, Bool.and_false]
        rfl

/-- A left-joined table is one of a left join, and a table that is joined otherwise is not. -/
theorem mem_leftJoined (h : Validation.Accepted c q) {j : Polystore.Join} (member : j ∈ q.joins)
    : j.table ∈ leftJoined q ↔ j.kind = .left := by
  have distinct : (q.joins.map (·.table)).Nodup := by
    have all := h.tableNames_nodup
    rw [h.tableNames_eq] at all
    exact (List.nodup_cons.mp all).2
  constructor
  · intro left
    obtain ⟨other, hother, same⟩ := List.mem_map.mp left
    obtain ⟨hother, kind⟩ := List.mem_filter.mp hother
    rw [← List.inj_on_of_nodup_map distinct hother member same]
    exact eq_of_beq kind
  · intro kind
    exact List.mem_map.mpr ⟨j, List.mem_filter.mpr ⟨member, by simp [kind]⟩, rfl⟩

/-- The table that a query starts from is not left-joined. -/
theorem source_not_leftJoined (h : Validation.Accepted c q) : q.source ∉ leftJoined q := by
  intro left
  have distinct := h.tableNames_nodup
  rw [h.tableNames_eq] at distinct
  obtain ⟨j, hj, same⟩ := List.mem_map.mp left
  exact (List.nodup_cons.mp distinct).1 (List.mem_map.mpr ⟨j, (List.mem_filter.mp hj).1, same⟩)

/-- The tables of left joins are touched tables, each once. -/
theorem leftJoined_eq (h : Validation.Accepted c q)
    : q.tableNames.filter (fun name => (leftJoined q).contains name)
      = (q.joins.filter (·.kind == .left)).map (·.table) := by
  have source := source_not_leftJoined h
  rw [h.tableNames_eq, List.filter_cons, if_neg (by simpa using source), List.filter_map]
  congr 1
  apply List.filter_congr
  intro j member
  rw [Bool.eq_iff_iff]
  simpa using mem_leftJoined h member

-----------------------------------------------------------------------------------------
-- The conditions of a statement and of its joins
-----------------------------------------------------------------------------------------

/-- The restriction to the ids of a plan: of the single key column of the table that the query
starts from, where the plan has ids.
-/
def RestrictsIds (c : Catalog) (p : Plan) (conditions : List (Condition (ColumnName String)))
    : Prop :=
  match p.ids with
  | none => conditions = []
  | some ids =>
      ∃ t key,
        c.table? p.query.source = some t
        ∧ t.primaryKey = [key]
        ∧ conditions
          = [⟨c.columnName ⟨p.query.source, key, false⟩, .known .among, .list ids, .ids⟩]

/-- Where the conditions of a query stand in its statement. Behind the restriction to ids are
the caller's filters in order, and then the row rules of every touched table that is not
left-joined, in the order of the tables. A left join has exactly the row rules of its own
table, and any other join has none.
-/
structure Placed (c : Catalog) (q : Query) (context : Context) (p : Plan)
    (s : Statement String)
    : Prop where
  conditions
    : ∃ restriction,
        RestrictsIds c p restriction
        ∧ s.conditions
          = restriction
            ++ (Access.callerFilters q
                ++ (q.tableNames.filter fun name => !(leftJoined q).contains name).flatMap
                  (c.rowConditions context)).map
              c.conditionNamed
  joins
    : List.Forall₂
        (fun j join =>
          join.table.apiName = j.table
          ∧ join.kind = j.kind
          ∧ join.conditions
            = (if j.kind = .left then c.rowConditions context j.table else []).map
              c.conditionNamed)
        q.joins s.joins
  noCaller : ∀ join ∈ s.joins, ∀ f ∈ join.conditions, f.source = .rowRule
  once
    : ((s.conditions ++ s.joins.flatMap (·.conditions)).filter (·.source == .rowRule)).Perm
        ((q.tableNames.flatMap (c.rowConditions context)).map c.conditionNamed)

/-- The restriction to ids is one of the single key column, and no row rule. -/
theorem Resolvable.restrictsIds (h : Resolvable c q context p)
    : RestrictsIds c p (idsNamed c p) ∧ ∀ f ∈ idsNamed c p, f.source = .ids := by
  unfold RestrictsIds idsNamed
  cases ids : p.ids with
  | none => simp
  | some values =>
      obtain ⟨scope, _, table, _⟩ := h.scope_of_mem h.source_mem
      obtain ⟨key, single⟩ := h.primaryKey_eq (by simp [ids]) table
      rw [h.query_eq]
      simp [table, single]

/-- The conditions in the joins of the described statement. -/
theorem Resolvable.joinConditions_eq (h : Resolvable c q context p) {j : Polystore.Join}
    (member : j ∈ q.joins)
    : joinConditions p j.table
      = if j.kind = .left then c.rowConditions context j.table else [] := by
  rw [joinConditions, h.query_eq, filters_eq h.granted,
    inside_eq h.accepted.tableNames_nodup (h.accepted.joined_mem member)]
  simp only [mem_leftJoined h.accepted member]

/-- The row rules in joins are those of the left-joined tables. -/
theorem Resolvable.inJoins_eq (h : Resolvable c q context p) (engine : String)
    : (named c p engine).joins.flatMap (·.conditions)
      = ((q.tableNames.filter fun name => (leftJoined q).contains name).flatMap
          (c.rowConditions context)).map
        c.conditionNamed := by
  rw [leftJoined_eq h.accepted, List.flatMap_map, List.map_flatMap, named, h.query_eq]
  simp only [List.flatMap_map]
  have each : ∀ j ∈ q.joins,
      (joinNamed c p j).conditions
        = if j.kind = .left then (c.rowConditions context j.table).map c.conditionNamed
          else [] := by
    intro j member
    simp only [joinNamed, h.joinConditions_eq member]
    split <;> rfl
  generalize q.joins = joins at each ⊢
  induction joins with
  | nil => rfl
  | cons j rest ih =>
      rw [List.flatMap_cons, each j (by simp),
        ih fun other member => each other (List.mem_cons_of_mem _ member), List.filter_cons]
      cases kind : j.kind <;> simp

/-- The conditions of the described statement outside its joins. -/
theorem Resolvable.conditions_eq (h : Resolvable c q context p) (engine : String)
    : (named c p engine).conditions
      = idsNamed c p
        ++ (Access.callerFilters q
            ++ (q.tableNames.filter fun name => !(leftJoined q).contains name).flatMap
              (c.rowConditions context)).map
          c.conditionNamed := by
  rw [named, h.query_eq, filters_eq h.granted, outside_eq]

/-- The conditions of the described statement stand where they belong. -/
theorem Resolvable.placed (h : Resolvable c q context p) (engine : String)
    : Placed c q context p (named c p engine) := by
  constructor
  case conditions => exact ⟨_, h.restrictsIds.1, h.conditions_eq engine⟩
  case joins =>
    rw [named, h.query_eq, List.forall₂_map_right_iff, List.forall₂_same]
    intro j member
    exact ⟨tableNamed_apiName j.table, rfl, by rw [joinNamed, h.joinConditions_eq member]⟩
  case noCaller =>
    intro join hjoin f hf
    have inJoins : f ∈ (named c p engine).joins.flatMap (·.conditions) :=
      List.mem_flatMap.mpr ⟨join, hjoin, hf⟩
    rw [h.inJoins_eq] at inJoins
    obtain ⟨row, hrow, rfl⟩ := List.mem_map.mp inJoins
    obtain ⟨name, _, hrow⟩ := List.mem_flatMap.mp hrow
    exact (of_mem_rowConditions hrow).1
  case once =>
    have allRows (names : List String)
        : ((names.flatMap (c.rowConditions context)).map c.conditionNamed).filter
            (·.source == .rowRule)
          = (names.flatMap (c.rowConditions context)).map c.conditionNamed := by
      rw [List.filter_eq_self]
      intro f member
      obtain ⟨row, hrow, rfl⟩ := List.mem_map.mp member
      obtain ⟨name, _, hrow⟩ := List.mem_flatMap.mp hrow
      simpa [Catalog.conditionNamed, Condition.on] using (of_mem_rowConditions hrow).1
    have noIds : (idsNamed c p).filter (·.source == .rowRule) = [] := by
      rw [List.filter_eq_nil_iff]
      intro f member
      simp [h.restrictsIds.2 f member]
    have noCaller
        : ((Access.callerFilters q).map c.conditionNamed).filter (·.source == .rowRule) = [] := by
      rw [List.filter_eq_nil_iff]
      intro f member
      obtain ⟨own, hown, rfl⟩ := List.mem_map.mp member
      simp [Catalog.conditionNamed, Condition.on, of_mem_callerFilters hown]
    rw [h.conditions_eq, h.inJoins_eq, List.map_append, List.filter_append, List.filter_append,
      List.filter_append, noIds, noCaller, allRows, allRows, List.nil_append, List.nil_append,
      ← List.map_append, ← List.flatMap_append]
    refine ((List.perm_append_comm.trans ?_).flatMap_right _).map _
    exact List.filter_append_perm _ _

-----------------------------------------------------------------------------------------
-- From queries to conjuncts
-----------------------------------------------------------------------------------------

/-- Every query that validation and access control let through has, for each plan that needs a
statement, one in which no condition is lost, repeated or moved. In whichever dialect it is
written, its conditions are the conjuncts of the clauses that they belong to.
-/
theorem resolve_places_conditions {s : ScopedQuery} {facilities : Facilities}
    {tolerance : Freshness}
    (valid : Validation.issues c q = [])
    (granted : (Access.apply c q context).result = .ok s)
    (planned : (Planning.plan c facilities s context tolerance).result = .ok p)
    (needed : p.needsSql = true)
    : ∃ statement,
        (resolve p).result = .ok statement
        ∧ Placed c q context p statement
        ∧ ∀ d ∈ Sql.shipped,
            ∀ compiled,
              Compiled.ofStatement d statement = .ok compiled
              → ∃ sql,
                  compiled.sql = d.render sql
                  ∧ compiled.params = sql.params
                  ∧ Sql.SetsOut d statement sql := by
  have h := resolvable_of_plan valid granted planned
  obtain ⟨engine, hengine⟩ := Option.isSome_iff_exists.mp needed
  refine ⟨named c p engine, h.resolve_eq hengine, h.placed engine, ?_⟩
  intro d shippedDialect compiled written
  obtain ⟨sql, hsql, written⟩ := Outcome.bind_eq_ok.mp written
  cases written
  exact ⟨sql, rfl, rfl, Sql.setsOut_of_ofStatement shippedDialect hsql⟩

end Statement

namespace Sample

/-- The conditions of the orders and their users are placed, and written as such. -/
theorem query_conditions_placed
    : ∃ s p statement compiled sql,
        (Access.apply catalog query context).result = .ok s
        ∧ (Planning.plan catalog facilities s context .hours).result = .ok p
        ∧ (Statement.resolve p).result = .ok statement
        ∧ Statement.Placed catalog query context p statement
        ∧ Compiled.ofStatement .postgres statement = .ok compiled
        ∧ compiled.sql = Dialect.postgres.render sql
        ∧ Sql.SetsOut .postgres statement sql := by
  obtain ⟨s, p, granted, planned, needed, compiled, written⟩
      : ∃ s p,
          (Access.apply catalog query context).result = .ok s
          ∧ (Planning.plan catalog facilities s context .hours).result = .ok p
          ∧ p.needsSql = true
          ∧ ∃ compiled,
              ((Statement.resolve p).result >>= Compiled.ofStatement .postgres) = .ok compiled :=
    ⟨_, _, rfl, rfl, rfl, _, rfl⟩
  obtain ⟨statement, resolved, placed, conjuncts⟩ :=
    Statement.resolve_places_conditions (by rfl) granted planned needed
  rw [resolved, Outcome.ok_bind] at written
  obtain ⟨sql, text, _, setOut⟩ := conjuncts .postgres (by simp [Sql.shipped]) compiled written
  exact ⟨s, p, statement, compiled, sql, granted, planned, resolved, placed, written, text, setOut⟩

end Sample

end Polystore
