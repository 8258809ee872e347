import Polystore.Proofs.Semantics.Chains
import Polystore.Proofs.Semantics.Lookups
import Polystore.Proofs.Semantics.Noninterference

/-! Left joins under row rules. Since the row rules of a left-joined table are part of its join, a
statement keeps every row of its first table that is asked for, however few of the joined rows are
visible, and what it shows of a joined table is blank exactly where no visible row is linked.
-/

namespace Polystore

-----------------------------------------------------------------------------------------
-- Queries with left joins
-----------------------------------------------------------------------------------------

/-- A query for all rows of the table that it starts from, to which it adds others by left joins
only, and which it filters by columns of that table only.
-/
structure Query.OnlyLeftJoins (q : Query) : Prop where
  plain : q.isAggregate = false
  mode : q.mode = .rows
  limit : q.limit = none
  offset : q.offset = none
  joins : ∀ j ∈ q.joins, j.kind = .left
  filters : ∀ f ∈ q.filters, (q.ref f.column).table = q.source

/-- Whether a row has nothing but nulls. -/
def Row.IsBlank (row : Row) : Prop := ∀ name, row.cell name = .null

namespace Semantics

open Statement

section Queries

variable (v : Conventions) (c : Catalog) (q : Query) (context : Context) (p : Plan)
  (storage : Storage)

/-- Whether a stored row of the table that a query starts from is asked for, and may be seen. -/
def askedFor (row : Row) : Bool :=
  (p.ids.all fun ids => v.meets (.known .among) (row.cell (c.keyName q.source)) (.list ids))
  && (q.filters.all fun f =>
        v.meets (.known f.op) (row.cell (c.columnName (q.ref f.column)).physicalName) f.value)
  && visible v c context q.source row

/-- The visible rows of a joined table whose column of the link equals that of a row of the table
which it is joined to.
-/
def partners (j : Polystore.Join) (origin : Row) : List Row :=
  let link := c.linkOf (j.sourceIn q) j.table
  (storage.contents (tableNamed p j.table)).filter fun row =>
    v.meets (.known .equal)
      (origin.cell (c.columnName (.joined (j.sourceIn q) link.1)).physicalName)
      (row.cell (c.columnName (.joined j.table link.2)).physicalName)
    && visible v c context j.table row

/-- Combinations in which every row of the first table that is asked for is kept, at least once and
in order, and no other row of it is. The part of a joined table is blank exactly where it has no
partners of the row that it is joined to, and is one of them otherwise.
-/
structure KeepsAsked (found : List Combination) : Prop where
  first
    : ∃ groups : List (List Combination),
        found = groups.flatten
        ∧ List.Forall₂
            (fun row group => group ≠ [] ∧ ∀ x ∈ group, x.lookup q.source = some row)
            ((storage.contents (tableNamed p q.source)).filter (askedFor v c q context p))
            groups
  joined
    : ∀ x ∈ found,
        ∀ j ∈ q.joins,
          ∃ origin part,
            x.lookup (j.sourceIn q) = some origin
            ∧ x.lookup j.table = some part
            ∧ (part.IsBlank ↔ partners v c q context p storage j origin = [])
            ∧ (¬ part.IsBlank → part ∈ partners v c q context p storage j origin)

end Queries

end Semantics

namespace Statement

open Semantics

variable {c : Catalog} {q : Query} {context : Context} {p : Plan} {v : Conventions}

-----------------------------------------------------------------------------------------
-- The statement of a query with left joins
-----------------------------------------------------------------------------------------

theorem Resolvable.leftJoin_named (h : Resolvable c q context p) (left : q.OnlyLeftJoins)
    {j : Polystore.Join} (member : j ∈ q.joins)
    : LeftJoin (joinNamed c p j) := by
  have name : (joinNamed c p j).table.apiName = j.table := tableNamed_apiName j.table
  constructor
  case kind => exact left.joins j member
  case right => exact name.symm
  case conditions =>
    intro f hf
    rw [joinNamed, h.joinConditions_eq member, if_pos (left.joins j member)] at hf
    rw [name]
    exact table_of_mem_rowConditions hf

/-- The joins of a query with left joins are a chain of them, by induction on the joins. -/
theorem Resolvable.chained_of_joinable (h : Resolvable c q context p) (left : q.OnlyLeftJoins)
    {names : List String} {joins : List Polystore.Join}
    (joinable : Validation.Joinable c q names joins) (members : ∀ j ∈ joins, j ∈ q.joins)
    : Chained names (joins.map (joinNamed c p)) := by
  induction joins generalizing names with
  | nil => trivial
  | cons j rest ih =>
      obtain ⟨new, known, _, later⟩ := joinable
      have name : (joinNamed c p j).table.apiName = j.table := tableNamed_apiName j.table
      have origin : (joinNamed c p j).left.table = j.sourceIn q := by
        rw [← h.query_eq]
        rfl
      have behind := ih later fun other member => members other (List.mem_cons_of_mem _ member)
      rw [List.map_cons, Chained, name, origin]
      exact ⟨h.leftJoin_named left (members j (List.mem_cons_self ..)), new, known, behind⟩

/-- The tables of a query with left joins that are not left-joined are the one it starts from. -/
theorem Resolvable.unjoined_eq (h : Resolvable c q context p) (left : q.OnlyLeftJoins)
    : (q.tableNames.filter fun name => !(leftJoined q).contains name) = [q.source] := by
  have source := source_not_leftJoined h.accepted
  have others
      : (q.joins.map (·.table)).filter (fun name => !(leftJoined q).contains name) = [] := by
    rw [List.filter_eq_nil_iff]
    intro name member
    obtain ⟨j, hj, rfl⟩ := List.mem_map.mp member
    simpa using (mem_leftJoined h.accepted hj).mpr (left.joins j hj)
  rw [h.accepted.tableNames_eq, List.filter_cons, others, if_pos (by simpa using source)]

/-- The conditions of a statement with left joins are on its first table, and a row of that table
meets them exactly where it is asked for.
-/
theorem Resolvable.conditions_askedFor (h : Resolvable c q context p) (left : q.OnlyLeftJoins)
    (engine : String)
    : (∀ f ∈ (named c p engine).conditions, f.column.table = q.source)
      ∧ meetsOwn v (named c p engine).conditions = askedFor v c q context p := by
  have conditions
      : (named c p engine).conditions
        = idsNamed c p
          ++ ((Access.callerFilters q).map c.conditionNamed
            ++ (c.rowConditions context q.source).map c.conditionNamed) := by
    rw [h.conditions_eq, h.unjoined_eq left, List.flatMap_singleton, List.map_append]
  rw [conditions]
  constructor
  · intro f member
    rcases List.mem_append.mp member with ids | member
    · exact h.table_of_mem_idsNamed ids
    · rcases List.mem_append.mp member with own | row
      · obtain ⟨_, hown, rfl⟩ := List.mem_map.mp own
        obtain ⟨filter, hfilter, rfl⟩ := List.mem_map.mp hown
        exact left.filters filter hfilter
      · exact table_of_mem_rowConditions row
  · funext row
    have ids
        : meetsOwn v (idsNamed c p) row
          = p.ids.all fun ids =>
              v.meets (.known .among) (row.cell (c.keyName q.source)) (.list ids) := by
      cases restricted : p.ids with
      | none => simp [idsNamed, restricted, meetsOwn]
      | some values =>
          obtain ⟨key, same, name⟩ := h.idsNamed_eq restricted
          simp [same, meetsOwn, name]
    have filters
        : meetsOwn v ((Access.callerFilters q).map c.conditionNamed) row
          = q.filters.all fun f =>
              v.meets (.known f.op) (row.cell (c.columnName (q.ref f.column)).physicalName)
                f.value := by
      rw [meetsOwn, Access.callerFilters, List.all_map, List.all_map]
      rfl
    rw [meetsOwn_append, meetsOwn_append, ids, filters, meetsOwn_rowConditions, askedFor,
      Bool.and_assoc]

theorem Resolvable.unpaged (h : Resolvable c q context p) (left : q.OnlyLeftJoins)
    (engine : String)
    : Unpaged (named c p engine) := by
  have plain := left.plain
  simp only [Query.isAggregate, Bool.or_eq_false_iff, Bool.not_eq_false', List.isEmpty_iff] at plain
  constructor <;>
    simp [named, h.query_eq, left.mode, left.limit, left.offset, plain.1, plain.2, Value.ofOption]

/-- What a join of the statement looks for are the partners of the row that it is joined to. -/
theorem Resolvable.partners_eq (h : Resolvable c q context p) (left : q.OnlyLeftJoins)
    {j : Polystore.Join} (member : j ∈ q.joins) {x : Combination} {origin : Row}
    (found : x.lookup (j.sourceIn q) = some origin) (storage : Storage)
    : (storage.contents (joinNamed c p j).table).filter (fits v (joinNamed c p j) x)
      = partners v c q context p storage j origin := by
  refine List.filter_congr fun row _ => ?_
  have seen
      : meetsOwn v (joinNamed c p j).conditions row = visible v c context j.table row := by
    rw [joinNamed, h.joinConditions_eq member, if_pos (left.joins j member),
      meetsOwn_rowConditions]
  rw [fits, seen]
  simp only [joinNamed, h.query_eq, Combination.value, Catalog.columnName, ColumnRef.joined, found,
    Option.getD_some]

end Statement

namespace Semantics

open Statement

/-- A partner is not blank: its column of the link equals another value, which no null does. -/
theorem not_isBlank_of_mem_partners {storage : Storage} {j : Polystore.Join} {origin part : Row}
    (member : part ∈ partners v c q context p storage j origin)
    : ¬ part.IsBlank := by
  intro blank
  have linked := (List.mem_filter.mp member).2
  rw [blank] at linked
  simp [Conventions.meets, Value.isNull] at linked

/-- Where joins are partnered, the parts of joined tables are as they should be. -/
theorem Partnered.joined (h : Resolvable c q context p) (left : q.OnlyLeftJoins)
    {j : Polystore.Join} (member : j ∈ q.joins) {storage : Storage} {x : Combination} {origin : Row}
    (found : x.lookup (j.sourceIn q) = some origin)
    (partnered : Partnered v (storage.contents (joinNamed c p j).table) (joinNamed c p j) x)
    : ∃ part,
        x.lookup j.table = some part
        ∧ (part.IsBlank ↔ partners v c q context p storage j origin = [])
        ∧ (¬ part.IsBlank → part ∈ partners v c q context p storage j origin) := by
  obtain ⟨part, there, some | ⟨none, rfl⟩⟩ := partnered
  · rw [h.partners_eq left member found] at some
    have full := not_isBlank_of_mem_partners some
    refine ⟨part, ?_, iff_of_false full (List.ne_nil_of_mem some), fun _ => some⟩
    rwa [joinNamed, tableNamed_apiName] at there
  · rw [h.partners_eq left member found] at none
    have blank : Row.IsBlank [] := fun _ => rfl
    refine ⟨[], ?_, iff_of_true blank none, fun full => absurd blank full⟩
    rwa [joinNamed, tableNamed_apiName] at there

/-- The statement of a query with left joins keeps the rows that are asked for. -/
theorem keepsAsked_named (h : Resolvable c q context p) (left : q.OnlyLeftJoins) (engine : String)
    (v : Conventions) (storage : Storage)
    : KeepsAsked v c q context p storage (kept v (named c p engine) storage.contents) := by
  have source : (named c p engine).table = tableNamed p q.source := by rw [named, h.query_eq]
  have joins : (named c p engine).joins = q.joins.map (joinNamed c p) := by rw [named, h.query_eq]
  have apiName : (named c p engine).table.apiName = q.source := by
    rw [source, tableNamed_apiName]
  obtain ⟨own, asked⟩ := h.conditions_askedFor (v := v) left engine
  have chained : Chained [q.source] (q.joins.map (joinNamed c p)) :=
    h.chained_of_joinable left h.accepted.joins fun _ member => member
  have made := kept_eq_flatMap (v := v) (s := named c p engine) (by rwa [apiName, joins])
    (by rwa [apiName]) storage.contents
  rw [joins, asked, apiName, source] at made
  rw [made]
  constructor
  case first =>
    refine ⟨_, List.flatMap_def .., ?_⟩
    rw [List.forall₂_map_right_iff, List.forall₂_same]
    intro row _
    refine ⟨chained.joinAll_ne_nil rfl, fun x member => ?_⟩
    obtain ⟨⟨more, rfl⟩, _⟩ := chained.partnered rfl member
    simp
  case joined =>
    intro x member j hj
    obtain ⟨row, _, member⟩ := List.mem_flatMap.mp member
    obtain ⟨_, partnered⟩ := chained.partnered rfl member
    have keys : x.keys = q.tableNames := by
      rw [← h.tables_eq engine, joins, apiName, ← List.singleton_append]
      refine keys_of_mem_joinAll (fun alone only => ?_) member
      rw [List.mem_singleton.mp only]
      rfl
    obtain ⟨origin, found⟩ : ∃ origin, x.lookup (j.sourceIn q) = some origin := by
      apply Entries.lookup_of_mem_keys
      rw [keys]
      exact h.accepted.sourceIn_mem hj
    obtain ⟨part, there⟩ :=
      Partnered.joined h left hj found (partnered _ (List.mem_map.mpr ⟨j, hj, rfl⟩))
    exact ⟨origin, part, found, there⟩

/-- Past the cache the ids of a plan are those that the query asks for. -/
theorem ids_eq_byIds {s : ScopedQuery} {facilities : Facilities} {tolerance : Freshness}
    (h : Resolvable c q context p)
    (planned : (Planning.plan c facilities s context tolerance).result = .ok p)
    (past : p.route.hit? = none)
    : p.ids = q.byIds := by
  obtain ⟨tables, route, _, _, made⟩ := Planning.plan_eq_ok.mp planned
  obtain ⟨_, _, _, _, rfl⟩ := Planning.planFor_eq_ok.mp made
  have same : s.query = q := h.query_eq
  have ids : Planning.idsFor route q = if q.idList.isEmpty then none else some q.idList := by
    cases route with
    | cached hit => cases past
    | _ => rfl
  change Planning.idsFor route s.query = q.byIds
  rw [same, ids, Query.idList]
  cases asked : q.byIds with
  | none => rfl
  | some values =>
      have some : values ≠ [] := fun none => h.accepted.someIds (by rw [asked, none])
      simp [some]

/-- A query with left joins has a statement that shows every row of its first table which is asked
for, and where it has no order shows them in that of the table. What it shows of a joined table is
blank exactly where no visible row of it is linked.
-/
theorem leftJoins_keep_rows {s : ScopedQuery} {facilities : Facilities} {tolerance : Freshness}
    (valid : Validation.issues c q = [])
    (granted : (Access.apply c q context).result = .ok s)
    (planned : (Planning.plan c facilities s context tolerance).result = .ok p)
    (needed : p.needsSql = true) (left : q.OnlyLeftJoins) (v : Conventions) (storage : Storage)
    : ∃ statement,
        (resolve p).result = .ok statement
        ∧ (p.route.hit? = none → p.ids = q.byIds)
        ∧ ∃ found shown,
            KeepsAsked v c q context p storage found
            ∧ shown.Perm found
            ∧ (q.orderBy = [] → shown = found)
            ∧ evaluate v statement storage = shown.map (shownOf statement) := by
  have h := resolvable_of_plan valid granted planned
  obtain ⟨engine, hengine⟩ := Option.isSome_iff_exists.mp needed
  refine ⟨named c p engine, h.resolve_eq hengine, ids_eq_byIds h planned, _, _,
    keepsAsked_named h left engine v storage, List.perm_insertionSort _ _, fun unordered => ?_,
    (h.unpaged left engine).evaluate_eq storage⟩
  refine inOrder_eq_self ?_ _
  rw [named, h.query_eq, unordered]
  rfl

end Semantics

namespace Sample

open Semantics

/-- All orders above an amount, as they are stored, with the names of their users. -/
def allOrders : Query := { query with orderBy := [], limit := none }

theorem allOrders_only_left_joins : allOrders.OnlyLeftJoins := by
  constructor
  case joins => simp [allOrders, query]
  case filters => simp [allOrders, query]; rfl
  all_goals rfl

/-- An order by a user of another tenant is kept, without the name of the user. -/
theorem order_of_hidden_user_kept
    : ∃ s p statement,
        (Access.apply catalog allOrders context).result = .ok s
        ∧ (Planning.plan catalog facilities s context .hours).result = .ok p
        ∧ p.needsSql = true
        ∧ allOrders.OnlyLeftJoins
        ∧ (Statement.resolve p).result = .ok statement
        ∧ evaluate conventions statement (storage true)
          = [[("total", .int 20), ("users.name", .text "Ann")],
              [("total", .int 30), ("users.name", .null)]]
        ∧ ∃ found shown,
            KeepsAsked conventions catalog allOrders context p (storage true) found
            ∧ shown.Perm found
            ∧ shown = found
            ∧ evaluate conventions statement (storage true) = shown.map (shownOf statement) := by
  obtain ⟨s, p, statement, granted, planned, needed, resolved, result⟩
      : ∃ s p statement,
          (Access.apply catalog allOrders context).result = .ok s
          ∧ (Planning.plan catalog facilities s context .hours).result = .ok p
          ∧ p.needsSql = true
          ∧ (Statement.resolve p).result = .ok statement
          ∧ evaluate conventions statement (storage true)
            = [[("total", .int 20), ("users.name", .text "Ann")],
                [("total", .int 30), ("users.name", .null)]] :=
    ⟨_, _, _, rfl, rfl, rfl, rfl, rfl⟩
  obtain ⟨other, same, _, found, shown, keeps, perm, ordered, shows⟩ :=
    leftJoins_keep_rows (by rfl) granted planned needed allOrders_only_left_joins conventions
      (storage true)
  obtain rfl := Except.ok.inj (same.symm.trans resolved)
  exact ⟨s, p, other, granted, planned, needed, allOrders_only_left_joins, resolved, result, found,
    shown, keeps, perm, ordered rfl, shows⟩

end Sample

end Polystore
