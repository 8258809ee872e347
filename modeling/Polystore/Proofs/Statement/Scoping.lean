import Polystore.Proofs.Statement.ColumnAccess

/-! What the names in a statement are of. Its tables go by different names, each join is from a
table in front of it along a declared relation, and every column that a clause uses is a declared
one of a table in the statement.
-/

namespace Polystore

-----------------------------------------------------------------------------------------
-- Declared columns and relations
-----------------------------------------------------------------------------------------

namespace Catalog

/-- Whether a column of a statement is declared, in the table that it is said to be of. -/
def Declares (c : Catalog) (column : Statement.ColumnName String) : Prop :=
  ∃ t declared,
    c.table? column.table = some t
    ∧ declared ∈ t.columns
    ∧ declared.physicalName = column.physicalName
    ∧ declared.type = column.type

/-- Whether two columns of a statement are the ends of a relation that the table of the first one
declares, the second one in the table that the relation leads to.
-/
def Relates (c : Catalog) (near far : Statement.ColumnName String) : Prop :=
  ∃ owner target r start stop,
    c.table? near.table = some owner
    ∧ c.table? far.table = some target
    ∧ r ∈ owner.relations
    ∧ r.targetTable = target.id
    ∧ owner.column? r.sourceColumn = some start
    ∧ target.column? r.targetColumn = some stop
    ∧ start.physicalName = near.physicalName
    ∧ stop.physicalName = far.physicalName

variable {c : Catalog}

/-- A reference to a declared column is called by a declared name. -/
theorem declares_columnName {ref : ColumnRef} (declared : ∃ column, c.refColumn? ref = some column)
    : c.Declares (c.columnName ref) := by
  obtain ⟨column, found⟩ := declared
  obtain ⟨t, ht, listed⟩ := Option.bind_eq_some_iff.mp found
  refine ⟨t, column, ht, List.mem_of_find?_eq_some listed, ?_, ?_⟩
  · simp only [columnName, found, Option.getD_some]
  · simp only [columnName, found, Option.getD_some]

/-- The ends of a declared relation are related by what they are called. -/
theorem relates_columnName {near far : String} {owner target : Table} {r : Relation}
    (howner : c.table? near = some owner) (htarget : c.table? far = some target)
    (member : r ∈ owner.relations) (towards : r.targetTable = target.id)
    : c.Relates (c.columnName (.joined near r.sourceColumn))
        (c.columnName (.joined far r.targetColumn)) := by
  obtain ⟨⟨start, hstart⟩, stop, hstop⟩ :=
    relation_declared (table?_eq_some howner).2 (table?_eq_some htarget).2 member towards
  refine ⟨owner, target, r, start, stop, howner, htarget, member, towards, hstart, hstop, ?_, ?_⟩
  · simp [columnName, refColumn?, ColumnRef.joined, howner, hstart]
  · simp [columnName, refColumn?, ColumnRef.joined, htarget, hstop]

end Catalog

-----------------------------------------------------------------------------------------
-- Well-scoped statements
-----------------------------------------------------------------------------------------

namespace Statement

/-- The names of the tables of a statement, the one that it starts from first. -/
def tableNames (s : Statement String) : List String :=
  s.table.apiName :: s.joins.map (·.table.apiName)

/-- The columns that the clauses of a statement use behind its joins. -/
def usedColumns (s : Statement String) : List (ColumnName String) :=
  s.chosenColumns ++ s.conditions.map (·.column)

/-- A join onto tables that are already there: along a relation that one of the two tables
declares, with conditions on the joined table alone.
-/
structure JoinsOnto (c : Catalog) (earlier : List String) (j : Join String) : Prop where
  left : j.left.table ∈ earlier
  right : j.right.table = j.table.apiName
  related : c.Relates j.left j.right ∨ c.Relates j.right j.left
  conditions : ∀ f ∈ j.conditions, f.column.table = j.table.apiName ∧ c.Declares f.column

/-- Joins each of which is onto the tables in front of it. -/
def Scoped (c : Catalog) : List String → List (Join String) → Prop
  | _, [] => True
  | earlier, j :: rest => JoinsOnto c earlier j ∧ Scoped c (earlier ++ [j.table.apiName]) rest

/-- A statement whose names are all of tables that are in scope where they stand. -/
structure WellScoped (c : Catalog) (q : Query) (s : Statement String) : Prop where
  distinct : s.tableNames.Nodup
  sources
    : List.Forall₂
        (fun j join => join.table.apiName = j.table ∧ join.left.table = j.sourceIn q)
        q.joins s.joins
  joins : Scoped c [s.table.apiName] s.joins
  used : ∀ column ∈ s.usedColumns, column.table ∈ s.tableNames ∧ c.Declares column

-----------------------------------------------------------------------------------------
-- Statements of accepted queries
-----------------------------------------------------------------------------------------

variable {c : Catalog} {q : Query} {context : Context} {p : Plan}

/-- The equality that a table is joined by is between the ends of a relation that one of the two
tables declares.
-/
theorem Resolvable.related_of_mem (h : Resolvable c q context p) {j : Polystore.Join}
    (member : j ∈ q.joins)
    : c.Relates (joinNamed c p j).left (joinNamed c p j).right
      ∨ c.Relates (joinNamed c p j).right (joinNamed c p j).left := by
  obtain ⟨_, _, horigin, _⟩ := h.scope_of_mem (h.accepted.sourceIn_mem member)
  obtain ⟨_, _, htable, _⟩ := h.scope_of_mem (h.accepted.joined_mem member)
  have linked := ((h.accepted.joins.join member).2 _ _ horigin htable).1
  obtain ⟨_, r, ends⟩ := link_ends horigin htable linked
  simp only [joinNamed, h.query_eq]
  rcases ends with ⟨own, towards, same⟩ | ⟨back, towards, same⟩
  · rw [same]
    exact .inl (Catalog.relates_columnName horigin htable own towards)
  · rw [same]
    exact .inr (Catalog.relates_columnName htable horigin back towards)

/-- The conditions in a join are row rules of the joined table. -/
theorem Resolvable.declares_of_joinConditions (h : Resolvable c q context p)
    {j : Polystore.Join} {f : Condition (ColumnName String)}
    (member : f ∈ (joinNamed c p j).conditions)
    : f.column.table = j.table ∧ c.Declares f.column := by
  obtain ⟨row, hrow, rfl⟩ := List.mem_map.mp member
  obtain ⟨listed, stays⟩ := List.mem_filter.mp hrow
  rw [Bool.and_eq_true] at stays
  refine ⟨eq_of_beq stays.2, Catalog.declares_columnName ?_⟩
  rw [h.granted.filters] at listed
  rcases List.mem_append.mp listed with own | ruled
  · rw [h.query_eq, staysInJoin_caller own] at stays
    exact absurd stays.1 Bool.false_ne_true
  · exact (h.row_declared ruled).2.2

/-- A join of the query is onto the tables in front of it, if its source is among them. -/
theorem Resolvable.joinsOnto (h : Resolvable c q context p) {j : Polystore.Join}
    (member : j ∈ q.joins) {earlier : List String} (present : j.sourceIn q ∈ earlier)
    : JoinsOnto c earlier (joinNamed c p j) := by
  constructor
  case left =>
    rw [← h.query_eq] at present
    exact present
  case right => exact (tableNamed_apiName j.table).symm
  case related => exact h.related_of_mem member
  case conditions =>
    intro f hf
    rw [joinNamed, tableNamed_apiName]
    exact h.declares_of_joinConditions hf

/-- Joins that can be made one after the other are written in that order, by induction on the
joins.
-/
theorem Resolvable.scoped_joins (h : Resolvable c q context p) {joins : List Polystore.Join}
    (members : ∀ j ∈ joins, j ∈ q.joins) {earlier : List String}
    (joinable : Validation.Joinable c q earlier joins)
    : Scoped c earlier (joins.map (joinNamed c p)) := by
  induction joins generalizing earlier with
  | nil => trivial
  | cons j rest ih =>
      obtain ⟨_, present, _, later⟩ := joinable
      refine ⟨h.joinsOnto (members j (by simp)) present, ?_⟩
      rw [joinNamed, tableNamed_apiName]
      exact ih (fun other hother => members other (List.mem_cons_of_mem _ hother)) later

/-- The conditions behind the joins are on declared columns of touched tables: the restriction to
ids as much as the caller's filters and the row rules.
-/
theorem Resolvable.declares_of_conditions (h : Resolvable c q context p) {engine : String}
    {f : Condition (ColumnName String)} (member : f ∈ (named c p engine).conditions)
    : f.column.table ∈ q.tableNames ∧ c.Declares f.column := by
  rcases List.mem_append.mp member with restriction | filter
  · have restricts := h.restrictsIds.1
    cases ids : p.ids with
    | none =>
        simp only [RestrictsIds, ids] at restricts
        simp [restricts] at restriction
    | some values =>
        simp only [RestrictsIds, ids, h.query_eq] at restricts
        obtain ⟨t, key, found, single, same⟩ := restricts
        rw [same, List.mem_singleton] at restriction
        rw [restriction]
        refine ⟨h.source_mem, Catalog.declares_columnName ?_⟩
        simpa only [Catalog.refColumn?, found, Option.bind_some] using
          Catalog.primaryKey_declared (Catalog.table?_eq_some found).2 (by simp [single])
  · obtain ⟨own, hown, rfl⟩ := List.mem_map.mp filter
    have listed := (List.mem_filter.mp hown).1
    rw [h.granted.filters] at listed
    rcases List.mem_append.mp listed with caller | ruled
    · obtain ⟨item, hitem, rfl⟩ := List.mem_map.mp caller
      have declared := h.declared_of_allows (h.granted.allowed _ (Access.ref_mem_of_filter hitem))
      exact ⟨declared.1, Catalog.declares_columnName declared.2⟩
    · have declared := (h.row_declared ruled).2
      exact ⟨declared.1, Catalog.declares_columnName declared.2⟩

/-- The columns that clauses use are declared ones of touched tables. -/
theorem Resolvable.declares_of_usedColumns (h : Resolvable c q context p) {engine : String}
    {column : ColumnName String} (member : column ∈ (named c p engine).usedColumns)
    : column.table ∈ q.tableNames ∧ c.Declares column := by
  rcases List.mem_append.mp member with chosen | restricted
  · obtain ⟨ref, allows, rfl⟩ := h.allowed_of_chosenColumns chosen
    have declared := h.declared_of_allows allows
    exact ⟨declared.1, Catalog.declares_columnName declared.2⟩
  · obtain ⟨f, hf, rfl⟩ := List.mem_map.mp restricted
    exact h.declares_of_conditions hf

/-- The statement that a plan describes is well scoped. -/
theorem Resolvable.wellScoped (h : Resolvable c q context p) (engine : String)
    : WellScoped c q (named c p engine) := by
  have tables : (named c p engine).tableNames = q.tableNames := h.tables_eq engine
  constructor
  case distinct =>
    rw [tables]
    exact h.accepted.tableNames_nodup
  case sources =>
    rw [named, h.query_eq, List.forall₂_map_right_iff, List.forall₂_same]
    intro j _
    exact ⟨tableNamed_apiName j.table, by rw [← h.query_eq]; rfl⟩
  case joins =>
    simp only [named, tableNamed_apiName, h.query_eq]
    exact h.scoped_joins (fun _ member => member) h.accepted.joins
  case used =>
    intro column member
    rw [tables]
    exact h.declares_of_usedColumns member

/-- Every query that validation and access control let through has, for each plan that needs a
statement, one that is well scoped and joins along declared relations.
-/
theorem resolve_wellScoped {s : ScopedQuery} {facilities : Facilities} {tolerance : Freshness}
    (valid : Validation.issues c q = [])
    (granted : (Access.apply c q context).result = .ok s)
    (planned : (Planning.plan c facilities s context tolerance).result = .ok p)
    (needed : p.needsSql = true)
    : ∃ statement, (resolve p).result = .ok statement ∧ WellScoped c q statement := by
  have h := resolvable_of_plan valid granted planned
  obtain ⟨engine, hengine⟩ := Option.isSome_iff_exists.mp needed
  exact ⟨named c p engine, h.resolve_eq hengine, h.wellScoped engine⟩

end Statement

namespace Sample

/-- Users with what their orders come to: the joined table declares the relation. -/
def usersWithOrders : Query :=
  { query with
    source := "users"
    columns := ["name", "orders.total"]
    filters := []
    joins := [⟨"orders", .inner, none, []⟩]
    orderBy := []
    byIds := none }

/-- Users and their orders are joined along the relation of the orders. -/
theorem users_joined_to_orders
    : ∃ s p statement join,
        (Access.apply catalog usersWithOrders context).result = .ok s
        ∧ (Planning.plan catalog facilities s context .hours).result = .ok p
        ∧ (Statement.resolve p).result = .ok statement
        ∧ Statement.WellScoped catalog usersWithOrders statement
        ∧ statement.joins = [join]
        ∧ join.left.path = "users.user_id"
        ∧ join.right.path = "orders.user_id" := by
  obtain ⟨s, p, granted, planned, needed, statement, resolved, join, joins, left, right⟩
      : ∃ s p,
          (Access.apply catalog usersWithOrders context).result = .ok s
          ∧ (Planning.plan catalog facilities s context .hours).result = .ok p
          ∧ p.needsSql = true
          ∧ ∃ statement,
              (Statement.resolve p).result = .ok statement
              ∧ ∃ join,
                  statement.joins = [join]
                  ∧ join.left.path = "users.user_id"
                  ∧ join.right.path = "orders.user_id" :=
    ⟨_, _, rfl, rfl, rfl, _, rfl, _, rfl, rfl, rfl⟩
  obtain ⟨same, resolved', wellScoped⟩ :=
    Statement.resolve_wellScoped (by rfl) granted planned needed
  obtain rfl := Except.ok.inj (resolved.symm.trans resolved')
  exact ⟨s, p, statement, join, granted, planned, resolved, wellScoped, joins, left, right⟩

end Sample

end Polystore
