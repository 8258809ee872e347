import Polystore.Proofs.Metadata.Integrity
import Polystore.Proofs.Planning.Routing
import Polystore.Proofs.Validation.Acceptance
import Polystore.Statement.Resolution

/-! The statement that a plan describes, written down clause by clause. Resolving the plan of an
accepted and granted query never fails: every name that a clause uses is declared, and the
result is exactly this statement.
-/

namespace Polystore

-----------------------------------------------------------------------------------------
-- Names in statements
-----------------------------------------------------------------------------------------

namespace Catalog

/-- The column that a reference is to. -/
def refColumn? (c : Catalog) (ref : ColumnRef) : Option Column :=
  (c.table? ref.table).bind fun t => t.column? ref.column

/-- What a reference is called in statements: the physical name of its column, labelled as the
reference is written.
-/
def columnName (c : Catalog) (ref : ColumnRef) : Statement.ColumnName String :=
  let column := (c.refColumn? ref).getD default
  ⟨ref.table, column.physicalName, ref.label, column.type⟩

/-- A condition on what its column is called in statements. -/
def conditionNamed (c : Catalog) (condition : Condition ColumnRef)
    : Condition (Statement.ColumnName String) :=
  condition.on (c.columnName condition.column)

/-- The columns by which two tables are joined, those of their first relation. -/
def linkOf (c : Catalog) (source target : String) : String × String :=
  match c.table? source, c.table? target with
  | some origin, some table =>
      match Catalog.relationsBetween origin table with
      | [] => ("", "")
      | (owner, r) :: _ =>
          if owner.id = origin.id then (r.sourceColumn, r.targetColumn)
          else (r.targetColumn, r.sourceColumn)
  | _, _ => ("", "")

end Catalog

namespace Statement

section Clauses

variable (c : Catalog) (p : Plan)

/-- The name of a table: that of the copy assigned to it. -/
def tableNamed (name : String) : TableName String :=
  match p.assignments.lookup name with
  | some a => ⟨name, a.copy.physicalName, a.catalog, a.schema⟩
  | none => ⟨name, "", none, none⟩

/-- A join along the first relation between its tables, with the conditions that stay in it. -/
def joinNamed (j : Polystore.Join) : Join String :=
  let source := j.sourceIn p.query
  let link := c.linkOf source j.table
  ⟨tableNamed p j.table, j.kind, c.columnName (.joined source link.1),
    c.columnName (.joined j.table link.2),
    (joinConditions p j.table).map c.conditionNamed⟩

/-- The restriction of the primary key to the ids of the plan, if it has any. -/
def idsNamed : List (Condition (ColumnName String)) :=
  match p.ids with
  | none => []
  | some ids =>
      let keys := ((c.table? p.query.source).map (·.primaryKey)).getD []
      keys.map fun key =>
        ⟨c.columnName ⟨p.query.source, key, false⟩, .known .among, .list ids, .ids⟩

def groupNamed (g : GroupItem) : Group String :=
  ⟨c.columnName (p.query.ref g.column), g.granularity.map .known⟩

/-- An aggregate, of rows where it names no column. -/
def aggregateNamed (a : Aggregation) : Aggregate String :=
  let column :=
    match a.column with
    | none => none
    | some reference =>
        if reference.isEmpty then none else some (c.columnName (p.query.ref reference))
  ⟨.known a.fn, column, a.label⟩

/-- A predicate on the aggregate of its label. -/
def havingNamed (h : Polystore.Having) : Having String :=
  let aggregate :=
    (p.query.aggregations.find? (·.label == h.label)).elim ⟨.known .count, none, h.label⟩
      (aggregateNamed c p)
  ⟨aggregate, .known h.op.toOperator, h.value⟩

/-- An order by an aggregate's label, or else by a column as the query groups by it. -/
def orderNamed (o : OrderItem) : Order String :=
  if o.column ∈ p.query.aggregateLabels then ⟨.known o.direction, .label o.column⟩
  else
    let ref := p.query.ref o.column
    ⟨.known o.direction,
      .column (c.columnName ref) ((granularityOf p.query ref).map .known)⟩

/-- The statement of a plan for an engine. -/
def named (engine : String) : Statement String where
  strategy := p.route.strategy
  target := p.route.target
  engine := engine
  table := tableNamed p p.query.source
  joins := p.query.joins.map (joinNamed c p)
  columns := p.granted.selection.map c.columnName
  conditions :=
    idsNamed c p
      ++ (p.granted.filters.filter fun f => !staysInJoin p.query f).map c.conditionNamed
  groupBy := p.query.groupBy.map (groupNamed c p)
  aggregates := p.query.aggregations.map (aggregateNamed c p)
  having := p.query.having.map (havingNamed c p)
  orderBy := p.query.orderBy.map (orderNamed c p)
  limit := .ofOption .int p.query.limit
  offset := .ofOption .int p.query.offset
  mode := p.query.mode

end Clauses

-----------------------------------------------------------------------------------------
-- Plans that can be resolved
-----------------------------------------------------------------------------------------

/-- A plan of an accepted query under access control. -/
structure Resolvable (c : Catalog) (q : Query) (context : Context) (p : Plan) : Prop where
  accepted : Validation.Accepted c q
  granted : Access.Granted c q context p.granted
  planned : Planning.Planned p.granted p

/-- What validation, access control and planning let through is resolvable. -/
theorem resolvable_of_plan {c : Catalog} {q : Query} {context : Context} {s : ScopedQuery}
    {facilities : Facilities} {tolerance : Freshness} {p : Plan}
    (valid : Validation.issues c q = [])
    (granted : (Access.apply c q context).result = .ok s)
    (planned : (Planning.plan c facilities s context tolerance).result = .ok p)
    : Resolvable c q context p := by
  have made := Planning.planned_of_plan planned
  have same := made.granted
  subst same
  exact ⟨Validation.accepted_of_issues valid, Access.granted_of_apply granted, made⟩

section Resolvable

variable {c : Catalog} {q : Query} {context : Context} {p : Plan}

/-- A resolvable plan is for the query that was accepted. -/
theorem Resolvable.query_eq (h : Resolvable c q context p) : p.query = q := h.granted.query

/-- A touched table is declared and has a scope. -/
theorem Resolvable.scope_of_mem (h : Resolvable c q context p) {name : String}
    (member : name ∈ q.tableNames)
    : ∃ scope, p.granted.scopes.lookup name = some scope ∧ c.table? name = some scope.table
        ∧ scope.table ∈ c.tables := by
  obtain ⟨scope, found, rule, rights⟩ := h.granted.scope_of_mem member
  exact ⟨scope, found, rights.table, (Catalog.table?_eq_some rights.table).2⟩

/-- The copies of a resolvable plan are those of the touched tables, by name. -/
theorem Resolvable.assignment_of_mem (h : Resolvable c q context p) {name : String}
    (member : name ∈ q.tableNames)
    : ∃ a, p.assignments.lookup name = some a := by
  have keys : p.assignments.keys = p.granted.query.tableNames := by
    refine Entries.keys_of_forall₂ (R := fun _ _ => True)
      (h.planned.assigned.imp fun name e ⟨scope, found, same, _⟩ => ⟨?_, trivial⟩)
    obtain ⟨_, rule, rights⟩ := h.granted.scopes_of_lookup found
    rw [same, (Catalog.table?_eq_some rights.table).1]
  apply Entries.lookup_of_mem_keys
  rw [keys, h.granted.query]
  exact member

-----------------------------------------------------------------------------------------
-- Resolving names
-----------------------------------------------------------------------------------------

/-- A reference to a declared column of a touched table is resolved to its name. -/
theorem Resolvable.resolveColumn_eq (h : Resolvable c q context p) {ref : ColumnRef}
    (touched : ref.table ∈ q.tableNames) (declared : ∃ column, c.refColumn? ref = some column)
    : resolveColumn p ref = .ok (c.columnName ref) := by
  obtain ⟨scope, found, table, _⟩ := h.scope_of_mem touched
  obtain ⟨column, declared⟩ := declared
  have listed : scope.table.column? ref.column = some column := by
    simpa only [Catalog.refColumn?, table, Option.bind_some] using declared
  simp only [resolveColumn, Statement.scope, found, Outcome.ok_bind, listed, Outcome.pure_eq,
    Catalog.columnName, declared, Option.getD_some]

/-- An allowed column is declared, on a touched table. -/
theorem Resolvable.declared_of_allows (h : Resolvable c q context p) {ref : ColumnRef}
    (allows : Access.Allows p.granted ref)
    : ref.table ∈ q.tableNames ∧ ∃ column, c.refColumn? ref = some column := by
  obtain ⟨scope, found, listed⟩ := allows
  obtain ⟨member, rule, rights⟩ := h.granted.scopes_of_lookup found
  refine ⟨member, ?_⟩
  simp only [Catalog.refColumn?, rights.table, Option.bind_some]
  apply Table.column?_of_mem
  rw [rights.allowed] at listed
  unfold Access.allowedColumns at listed
  split at listed
  · exact listed
  · exact (List.mem_filter.mp listed).1

/-- A column that the caller names is resolved. -/
theorem Resolvable.resolveColumn_referenced (h : Resolvable c q context p) {ref : ColumnRef}
    (member : ref ∈ Access.referencedColumns q)
    : resolveColumn p ref = .ok (c.columnName ref) :=
  have declared := h.declared_of_allows (h.granted.allowed ref member)
  h.resolveColumn_eq declared.1 declared.2

/-- A condition of a row rule is on a declared column of the table that has the rule. -/
theorem Resolvable.row_declared (h : Resolvable c q context p) {f : Condition ColumnRef}
    (member : f ∈ p.granted.scopes.values.flatMap (·.rows))
    : f.source = .rowRule ∧ f.column.table ∈ q.tableNames
      ∧ ∃ column, c.refColumn? f.column = some column := by
  obtain ⟨name, scope, rule, row, touched, rights, hrow, rfl⟩ := h.granted.row_of_mem member
  refine ⟨rfl, touched, ?_⟩
  have declared := (Catalog.table?_eq_some rights.table).2
  change ∃ column, (c.table? name).bind _ = some column
  rw [rights.table]
  exact Catalog.rowRule_declared declared rights.ruled hrow

/-- Every filter, whether it is the caller's or a row rule's, is resolved. -/
theorem Resolvable.resolveCondition_eq (h : Resolvable c q context p) {f : Condition ColumnRef}
    (member : f ∈ p.granted.filters)
    : resolveCondition p f = .ok (c.conditionNamed f) := by
  have resolved : resolveColumn p f.column = .ok (c.columnName f.column) := by
    rw [h.granted.filters] at member
    rcases List.mem_append.mp member with own | row
    · apply h.resolveColumn_referenced
      obtain ⟨filter, hfilter, rfl⟩ := List.mem_map.mp own
      exact Access.ref_mem_of_filter hfilter
    · have declared := (h.row_declared row).2
      exact h.resolveColumn_eq declared.1 declared.2
  rw [resolveCondition, resolved]
  rfl

-----------------------------------------------------------------------------------------
-- Resolving clauses
-----------------------------------------------------------------------------------------

/-- Filters are resolved in order, without those that stay in joins, by induction on them. -/
theorem Resolvable.resolveFilters_eq (h : Resolvable c q context p)
    {filters : List (Condition ColumnRef)} (members : ∀ f ∈ filters, f ∈ p.granted.filters)
    : resolveFilters p filters
      = .ok ((filters.filter fun f => !staysInJoin p.query f).map c.conditionNamed) := by
  induction filters with
  | nil => rfl
  | cons f rest ih =>
      rw [resolveFilters, h.resolveCondition_eq (members f (by simp)), Outcome.ok_bind,
        ih fun g member => members g (List.mem_cons_of_mem _ member), Outcome.ok_bind]
      cases stays : staysInJoin p.query f <;> simp [stays]

/-- Tables that a relation links are joined by the ends of one that the first of them declares, or
else the second.
-/
theorem link_ends {source target : String} {origin table : Table}
    (horigin : c.table? source = some origin) (htable : c.table? target = some table)
    (linked : Catalog.relationsBetween origin table ≠ [])
    : linkColumns origin table = .ok (c.linkOf source target)
      ∧ ∃ r,
          (r ∈ origin.relations
            ∧ r.targetTable = table.id
            ∧ c.linkOf source target = (r.sourceColumn, r.targetColumn))
          ∨ (r ∈ table.relations
            ∧ r.targetTable = origin.id
            ∧ c.linkOf source target = (r.targetColumn, r.sourceColumn)) := by
  obtain ⟨⟨owner, r⟩, rest, relations⟩ := List.exists_cons_of_ne_nil linked
  have first : (owner, r) ∈ Catalog.relationsBetween origin table := by simp [relations]
  simp only [linkColumns, Catalog.linkOf, horigin, htable, relations, true_and]
  simp only [Catalog.relationsBetween, List.mem_append] at first
  refine ⟨r, ?_⟩
  rcases first with own | back
  · obtain ⟨_, hr, same⟩ := List.mem_map.mp own
    cases same
    obtain ⟨member, towards⟩ := List.mem_filter.mp hr
    rw [if_pos rfl]
    exact .inl ⟨member, by simpa using towards, rfl⟩
  · split at back
    · simp at back
    next different =>
      obtain ⟨_, hr, same⟩ := List.mem_map.mp back
      cases same
      obtain ⟨member, towards⟩ := List.mem_filter.mp hr
      have distinct : table.id ≠ origin.id := fun same => different (by simp [same])
      rw [if_neg distinct]
      exact .inr ⟨member, by simpa using towards, rfl⟩

/-- Tables that a relation links are joined by declared columns, one of each. -/
theorem link_declared {source target : String} {origin table : Table}
    (horigin : c.table? source = some origin) (htable : c.table? target = some table)
    (linked : Catalog.relationsBetween origin table ≠ [])
    : linkColumns origin table = .ok (c.linkOf source target)
      ∧ (∃ column, origin.column? (c.linkOf source target).1 = some column)
      ∧ ∃ column, table.column? (c.linkOf source target).2 = some column := by
  obtain ⟨link, r, ends⟩ := link_ends horigin htable linked
  refine ⟨link, ?_⟩
  have declared := (Catalog.table?_eq_some horigin).2
  have declared' := (Catalog.table?_eq_some htable).2
  rcases ends with ⟨member, towards, same⟩ | ⟨member, towards, same⟩
  · rw [same]
    exact Catalog.relation_declared declared declared' member towards
  · rw [same]
    exact (Catalog.relation_declared declared' declared member towards).symm

theorem Resolvable.tableName_eq (h : Resolvable c q context p) {name : String}
    (member : name ∈ q.tableNames)
    : tableName p name = .ok (tableNamed p name) := by
  obtain ⟨a, found⟩ := h.assignment_of_mem member
  simp only [tableName, tableNamed, found]

theorem tableNamed_apiName (name : String) : (tableNamed p name).apiName = name := by
  unfold tableNamed
  cases p.assignments.lookup name <;> rfl

/-- Every join of the query is resolved: its tables are linked by a declared relation. -/
theorem Resolvable.resolveJoin_eq (h : Resolvable c q context p) {j : Polystore.Join}
    (member : j ∈ q.joins)
    : resolveJoin p j = .ok (joinNamed c p j) := by
  have source := h.accepted.sourceIn_mem member
  have target := h.accepted.joined_mem member
  obtain ⟨origin, foundOrigin, horigin, _⟩ := h.scope_of_mem source
  obtain ⟨table, foundTable, htable, _⟩ := h.scope_of_mem target
  have linked := ((h.accepted.joins.join member).2 _ _ horigin htable).1
  obtain ⟨link, left, right⟩ := link_declared horigin htable linked
  have conditions : (joinConditions p j.table).mapM (resolveCondition p)
      = .ok ((joinConditions p j.table).map c.conditionNamed) :=
    Outcome.mapM_eq_map fun f hf => h.resolveCondition_eq (List.mem_filter.mp hf).1
  have left : resolveColumn p (.joined (j.sourceIn q) (c.linkOf (j.sourceIn q) j.table).1)
      = .ok (c.columnName _) :=
    h.resolveColumn_eq source (by simpa [Catalog.refColumn?, ColumnRef.joined, horigin] using left)
  have right : resolveColumn p (.joined j.table (c.linkOf (j.sourceIn q) j.table).2)
      = .ok (c.columnName _) :=
    h.resolveColumn_eq target (by simpa [Catalog.refColumn?, ColumnRef.joined, htable] using right)
  simp only [resolveJoin, joinNamed, Statement.scope, h.query_eq, foundOrigin, foundTable, link,
    h.tableName_eq target, left, right, conditions, Outcome.ok_bind, Outcome.pure_eq]

/-- The ids of a plan restrict the single column of the primary key. -/
theorem Resolvable.primaryKey_eq (h : Resolvable c q context p) (restricted : p.ids.isSome)
    {t : Table} (found : c.table? q.source = some t)
    : ∃ key, t.primaryKey = [key] := by
  have asked := h.planned.restricted restricted
  rw [h.granted.query] at asked
  apply h.accepted.singleKey t _ found
  cases ids : q.byIds with
  | none => simp [Query.idList, ids] at asked
  | some _ => rfl

theorem Resolvable.source_mem (h : Resolvable c q context p) : q.source ∈ q.tableNames := by
  rw [h.accepted.tableNames_eq]
  simp

/-- The restriction to ids is resolved. -/
theorem Resolvable.idCondition_eq (h : Resolvable c q context p)
    : idCondition p = .ok (idsNamed c p) := by
  cases ids : p.ids with
  | none => simp only [idCondition, idsNamed, ids]
  | some values =>
      obtain ⟨scope, found, table, declared⟩ := h.scope_of_mem h.source_mem
      obtain ⟨key, single⟩ := h.primaryKey_eq (by simp [ids]) table
      have column : resolveColumn p ⟨q.source, key, false⟩
          = .ok (c.columnName ⟨q.source, key, false⟩) := by
        apply h.resolveColumn_eq h.source_mem
        simpa [Catalog.refColumn?, table] using
          Catalog.primaryKey_declared declared (by simp [single])
      simp only [idCondition, idsNamed, ids, Statement.scope, h.query_eq, found, table, single,
        column, Outcome.ok_bind, Outcome.pure_eq, Option.map_some, Option.getD_some,
        List.map_cons, List.map_nil]

theorem Resolvable.resolveGroup_eq (h : Resolvable c q context p) {g : GroupItem}
    (member : g ∈ q.groupBy)
    : resolveGroup p g = .ok (groupNamed c p g) := by
  have column := h.resolveColumn_referenced (Access.ref_mem_of_group member)
  simp only [resolveGroup, groupNamed, h.query_eq, column, Outcome.ok_bind, Outcome.pure_eq]

theorem Resolvable.resolveAggregate_eq (h : Resolvable c q context p) {a : Aggregation}
    (member : a ∈ q.aggregations)
    : resolveAggregate p a = .ok (a.label, aggregateNamed c p a) := by
  cases named : a.column with
  | none => simp only [resolveAggregate, aggregateNamed, named, Outcome.ok_bind, Outcome.pure_eq]
  | some reference =>
      cases empty : reference.isEmpty with
      | true =>
          simp only [resolveAggregate, aggregateNamed, named, empty, if_true, Outcome.ok_bind,
            Outcome.pure_eq]
      | false =>
          have column := h.resolveColumn_referenced
            (Access.ref_mem_of_aggregate member named empty)
          simp only [resolveAggregate, aggregateNamed, named, empty, Bool.false_eq_true, if_false,
            h.query_eq, column, Outcome.map_ok, Outcome.ok_bind, Outcome.pure_eq]

/-- The aggregates stand under their labels, each of which occurs once. -/
theorem Resolvable.aggregates_eq (h : Resolvable c q context p)
    : (q.aggregations.mapM (resolveAggregate p)).map Entries.ofList
      = .ok (q.aggregations.map fun a => (a.label, aggregateNamed c p a)) := by
  rw [Outcome.mapM_eq_map fun a member => h.resolveAggregate_eq member]
  change Except.ok (Entries.ofList _) = _
  rw [Entries.ofList_eq_self]
  rw [Entries.keys, List.map_map]
  exact h.accepted.labels

theorem Resolvable.resolveOrder_eq (h : Resolvable c q context p) {o : OrderItem}
    (member : o ∈ q.orderBy)
    : resolveOrder p (q.aggregations.map fun a => (a.label, aggregateNamed c p a)) o
      = .ok (orderNamed c p o) := by
  have labelled
      : Entries.has (q.aggregations.map fun a => (a.label, aggregateNamed c p a)) o.column
        = true ↔ o.column ∈ q.aggregateLabels := by
    simp [Entries.has, Query.aggregateLabels]
  by_cases taken : o.column ∈ q.aggregateLabels
  · simp only [resolveOrder, orderNamed, labelled.mpr taken, h.query_eq, taken, if_true,
      Outcome.pure_eq]
  · have column := h.resolveColumn_referenced (Access.ref_mem_of_order member taken)
    simp only [resolveOrder, orderNamed, mt labelled.mp taken, h.query_eq, taken,
      Bool.false_eq_true, if_false, column, Outcome.ok_bind, Outcome.pure_eq]

/-- A predicate on an aggregate is on one that the query has. -/
theorem Resolvable.find_aggregate (h : Resolvable c q context p) {predicate : Polystore.Having}
    (member : predicate ∈ q.having)
    : ∃ a, q.aggregations.find? (·.label == predicate.label) = some a := by
  obtain ⟨a, ha, same⟩ := List.mem_map.mp (h.accepted.having predicate member)
  apply Option.isSome_iff_exists.mp
  rw [List.find?_isSome]
  exact ⟨a, ha, by simp [same]⟩

theorem Resolvable.resolveHaving_eq (h : Resolvable c q context p) {predicate : Polystore.Having}
    (member : predicate ∈ q.having)
    : resolveHaving (q.aggregations.map fun a => (a.label, aggregateNamed c p a)) predicate
      = .ok (havingNamed c p predicate) := by
  have found
      : (q.aggregations.map fun a => (a.label, aggregateNamed c p a)).lookup predicate.label
        = (q.aggregations.find? (·.label == predicate.label)).map (aggregateNamed c p) := by
    induction q.aggregations with
    | nil => rfl
    | cons a rest ih =>
        rw [List.map_cons, List.lookup_cons, List.find?_cons, ih, BEq.comm]
        cases a.label == predicate.label <;> rfl
  obtain ⟨a, ha⟩ := h.find_aggregate member
  simp only [resolveHaving, havingNamed, found, h.query_eq, ha, Option.map_some, Option.elim_some]

-----------------------------------------------------------------------------------------
-- Resolving plans
-----------------------------------------------------------------------------------------

/-- A resolvable plan that needs a statement is resolved to the one that it describes. -/
theorem Resolvable.ofPlan_eq (h : Resolvable c q context p) {engine : String}
    (needed : p.engine = some engine)
    : ofPlan p = .ok (named c p engine) := by
  have filters := h.resolveFilters_eq fun f (member : f ∈ p.granted.filters) => member
  have joins := Outcome.mapM_eq_map fun _ member => h.resolveJoin_eq member
  have groups := Outcome.mapM_eq_map fun _ member => h.resolveGroup_eq member
  have orders := Outcome.mapM_eq_map fun _ member => h.resolveOrder_eq member
  have havings := Outcome.mapM_eq_map fun _ member => h.resolveHaving_eq member
  have columns : p.granted.selection.mapM (resolveColumn p)
      = .ok (p.granted.selection.map c.columnName) :=
    Outcome.mapM_eq_map fun ref member =>
      have declared := h.declared_of_allows (h.granted.allows_of_selection member)
      h.resolveColumn_eq declared.1 declared.2
  obtain ⟨pairs, resolved, aggregates⟩ := Outcome.map_eq_ok.mp h.aggregates_eq
  simp only [ofPlan, needed, named, h.query_eq, filters, joins, h.idCondition_eq, groups,
    resolved, aggregates, orders, h.tableName_eq h.source_mem, columns, havings,
    Outcome.ok_bind, Outcome.pure_eq]
  congr 2
  simp [Entries.values]

/-- The tables of the described statement are those of the query. -/
theorem Resolvable.tables_eq (h : Resolvable c q context p) (engine : String)
    : (named c p engine).table.apiName :: (named c p engine).joins.map (·.table.apiName)
      = q.tableNames := by
  have joins : (named c p engine).joins.map (·.table.apiName) = q.joins.map (·.table) := by
    rw [named, h.query_eq, List.map_map]
    apply List.map_congr_left
    intro j _
    exact tableNamed_apiName j.table
  have first : (named c p engine).table.apiName = q.source := by
    rw [named, h.query_eq]
    exact tableNamed_apiName q.source
  rw [first, joins, h.accepted.tableNames_eq]

/-- Resolving a resolvable plan records names, and gives the statement that it describes. -/
theorem Resolvable.resolve_eq (h : Resolvable c q context p) {engine : String}
    (needed : p.engine = some engine)
    : (resolve p).result = .ok (named c p engine) := by
  simp only [resolve, Traced.result_bind, Traced.result_ofExcept, h.ofPlan_eq needed,
    Outcome.ok_bind, Traced.result_note, Traced.result_pure]

/-- A statement that comes of a resolvable plan is the one that the plan describes. -/
theorem Resolvable.eq_named (h : Resolvable c q context p) {statement : Statement String}
    (resolved : (resolve p).result = .ok statement)
    : ∃ engine, p.engine = some engine ∧ statement = named c p engine := by
  cases needed : p.engine with
  | none =>
      obtain ⟨_, made, _⟩ := Outcome.bind_eq_ok.mp ((Traced.result_bind _ _).symm.trans resolved)
      simp [ofPlan, needed] at made
  | some engine =>
      rw [h.resolve_eq needed, Except.ok.injEq] at resolved
      exact ⟨engine, rfl, resolved.symm⟩

end Resolvable

end Statement

namespace Sample

/-- What two orders above an amount come to, with the names of the users who placed them. -/
def query : Query where
  source := "orders"
  columns := ["total", "users.name"]
  filters := [⟨"total", .greater, .int 10⟩]
  joins := [⟨"users", .left, none, []⟩]
  orderBy := [⟨"total", .descending⟩]
  groupBy := []
  aggregations := []
  having := []
  limit := some 5
  offset := none
  byIds := some [.int 1, .int 2]
  freshness := none
  mode := .rows

/-- The orders on their own. -/
def ordersQuery : Query := { query with columns := ["total"], joins := [] }

def runtime : Runtime := ⟨1000, .none⟩

def facilities : Facilities := ⟨false, none, true, runtime⟩

end Sample

end Polystore
