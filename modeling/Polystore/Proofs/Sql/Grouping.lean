import Polystore.Proofs.Sql.Conjuncts
import Polystore.Proofs.Statement.Labels
import Polystore.Proofs.Statement.Words

/-! What aggregate queries select and order by. Whatever is selected besides aggregates is an
expression that the rows are grouped by, truncated alike; and so is whatever they are ordered by
besides aggregates exactly where the query orders by nothing else, which is not checked.
-/

namespace Polystore

open Outcome

-----------------------------------------------------------------------------------------
-- Columns that rows are grouped by
-----------------------------------------------------------------------------------------

namespace Statement

/-- Whether rows are grouped by a column, truncated to a granularity or not at all. -/
def GroupsBy (s : Statement String) (c : ColumnName String)
    (granularity : Option (Named Granularity))
    : Prop :=
  ∃ g ∈ s.groupBy,
    g.column.table = c.table
    ∧ g.column.physicalName = c.physicalName
    ∧ g.granularity = granularity

/-- Whether rows are ordered by an aggregate or by what they are grouped by. -/
def Order.Grouped (s : Statement String) (o : Order String) : Prop :=
  match o.key with
  | .label label => ∃ a ∈ s.aggregates, a.label = label
  | .column c granularity => s.GroupsBy c granularity
  | .nothing => False

end Statement

namespace Query

/-- Whether a query groups by the column that a reference is to, at the granularity at which it
would order by the reference.
-/
def GroupsBy (c : Catalog) (q : Query) (ref : ColumnRef) : Prop :=
  ∃ g ∈ q.groupBy,
    (q.ref g.column).table = ref.table
    ∧ (c.columnName (q.ref g.column)).physicalName = (c.columnName ref).physicalName
    ∧ g.granularity = Statement.granularityOf q ref

/-- Whether a query orders by aggregates and by what it groups by only. -/
def OrdersByGroups (c : Catalog) (q : Query) : Prop :=
  ∀ o ∈ q.orderBy, o.column ∉ q.aggregateLabels → q.GroupsBy c (q.ref o.column)

end Query

namespace Sql

open Statement

variable {d : Dialect} {s : Statement String} {parts : Parts}

-----------------------------------------------------------------------------------------
-- Truncated columns
-----------------------------------------------------------------------------------------

/-- A column is truncated by a function of its own for each granularity, in every dialect. -/
theorem exists_truncating (shippedDialect : d ∈ shipped)
    : ∃ function : Granularity → String,
        function.Injective
        ∧ ∀ (c : ColumnName String) granularity,
            truncated d c (some (.known granularity))
              = .ok
                (.text (function granularity)
                  :: [.name c.table, .text ".", .name c.physicalName] ++ [.text ")"]) := by
  have started : Dialect.clickhouse.truncating = some Dialect.startFunction := rfl
  have dated (unit other : Granularity)
      (same
        : s!"date_trunc('{Vocabulary.name unit}', " = s!"date_trunc('{Vocabulary.name other}', ")
      : unit = other := by
    cases unit <;> cases other <;> first | rfl | exact absurd same (by decide)
  simp only [shipped, List.mem_cons, List.not_mem_nil, or_false] at shippedDialect
  rcases shippedDialect with rfl | rfl | rfl | rfl
  case inl => exact ⟨_, dated, fun _ _ => rfl⟩
  case inr.inl =>
    refine ⟨fun unit => s!"{Dialect.startFunction unit}(", fun unit other same => ?_, ?_⟩
    · cases unit <;> cases other <;> first | rfl | exact absurd same (by decide)
    · intro c unit
      cases unit <;> rfl
  case inr.inr.inl => exact ⟨_, dated, fun _ _ => rfl⟩
  case inr.inr.inr => exact ⟨_, dated, fun _ _ => rfl⟩

/-- Columns are told apart by what they are written as, and so are their granularities. -/
theorem truncated_inj (shippedDialect : d ∈ shipped) {a b : ColumnName String}
    {unit other : Option Granularity} {text : Sql}
    (ha : truncated d a (unit.map .known) = .ok text)
    (hb : truncated d b (other.map .known) = .ok text)
    : a.table = b.table ∧ a.physicalName = b.physicalName ∧ unit = other := by
  obtain ⟨function, injective, known⟩ := exists_truncating shippedDialect
  have plain (c : ColumnName String)
      : truncated d c none = .ok [.name c.table, .text ".", .name c.physicalName] := rfl
  cases unit with
  | none =>
      rw [Option.map_none, plain, Except.ok.injEq] at ha
      subst ha
      cases other with
      | none =>
          simp only [Option.map_none, plain, Except.ok.injEq, List.cons.injEq, Piece.name.injEq,
            and_true, true_and] at hb
          exact ⟨hb.1.symm, hb.2.symm, rfl⟩
      | some other =>
          rw [Option.map_some, known] at hb
          cases hb
  | some unit =>
      rw [Option.map_some, known, Except.ok.injEq] at ha
      subst ha
      cases other with
      | none => cases hb
      | some other =>
          rw [Option.map_some, known] at hb
          simp only [List.cons_append, List.nil_append, Except.ok.injEq, List.cons.injEq,
            Piece.text.injEq, Piece.name.injEq, and_true, true_and] at hb
          obtain ⟨functions, tables, names⟩ := hb
          exact ⟨tables.symm, names.symm, congrArg some (injective functions.symm)⟩

/-- A column is never written as a single name. -/
theorem truncated_ne_name (shippedDialect : d ∈ shipped) (c : ColumnName String)
    (unit : Option Granularity) (label : String)
    : truncated d c (unit.map .known) ≠ .ok [.name label] := by
  obtain ⟨_, _, known⟩ := exists_truncating shippedDialect
  cases unit with
  | none => exact nofun
  | some unit =>
      rw [Option.map_some, known]
      exact nofun

/-- What is written of a column does not depend on its label and its type. -/
theorem truncated_congr {a b : ColumnName String} (tables : a.table = b.table)
    (names : a.physicalName = b.physicalName) (granularity : Option (Named Granularity))
    : truncated d a granularity = truncated d b granularity := by
  simp only [truncated, column, tables, names]

/-- A column is among the texts that rows are grouped by exactly if they are grouped by it. -/
theorem IsWritten.mem_groups_iff (written : IsWritten d s parts) (shippedDialect : d ∈ shipped)
    (worded : s.Worded) {c : ColumnName String} {unit : Option Granularity} {text : Sql}
    (h : truncated d c (unit.map .known) = .ok text)
    : text ∈ parts.groups ↔ s.GroupsBy c (unit.map .known) := by
  constructor
  · intro member
    obtain ⟨g, listed, same⟩ := exists_of_mem_mapM written.groups member
    obtain ⟨word, granularity⟩ := worded.groups g listed
    rw [granularity] at same
    obtain ⟨tables, names, rfl⟩ := truncated_inj shippedDialect same h
    exact ⟨g, listed, tables, names, granularity⟩
  · rintro ⟨g, listed, tables, names, granularity⟩
    obtain ⟨other, member, same⟩ := exists_of_mapM written.groups listed
    rw [granularity, truncated_congr tables names, h, Except.ok.injEq] at same
    rwa [same]

-----------------------------------------------------------------------------------------
-- The select list
-----------------------------------------------------------------------------------------

/-- A select list whose items are aggregates, or texts that rows are grouped by, under labels. -/
def SelectsGrouped (s : Statement String) (parts : Parts) : Prop :=
  ∃ items,
    parts.select = .text "SELECT " :: join ", " items
    ∧ ∀ item ∈ items,
        ∃ label text,
          item = text ++ [.text " AS ", .name label]
          ∧ (text ∈ parts.groups ∨ ∃ a ∈ s.aggregates, AggregateForm a text)

/-- A statement that aggregates, and does not just count rows, selects its groups and aggregates. -/
theorem IsWritten.selectsGrouped (written : IsWritten d s parts) (rows : s.mode = .rows)
    (some : s.groupBy ≠ [] ∨ s.aggregates ≠ [])
    : SelectsGrouped s parts := by
  obtain ⟨items, listed, select⟩ := bind_eq_ok.mp written.select
  have aggregate : (!s.groupBy.isEmpty || !s.aggregates.isEmpty) = true := by
    simpa using some
  simp only [selectItems, rows, reduceCtorEq, if_false, aggregate, if_true] at listed
  obtain ⟨groups, hgroups, listed⟩ := bind_eq_ok.mp listed
  obtain ⟨aggregates, haggregates, listed⟩ := bind_eq_ok.mp listed
  cases listed
  refine ⟨groups ++ aggregates, ?_, ?_⟩
  · split at select
    · cases select
    · exact (Except.ok.inj select).symm
  · intro item member
    rcases List.mem_append.mp member with group | aggregate
    · obtain ⟨g, hg, labelled⟩ := exists_of_mem_mapM hgroups group
      obtain ⟨text, here, labelled⟩ := bind_eq_ok.mp labelled
      cases labelled
      obtain ⟨other, listed, same⟩ := exists_of_mapM written.groups hg
      rw [here, Except.ok.injEq] at same
      exact ⟨_, text, rfl, .inl (same ▸ listed)⟩
    · obtain ⟨a, ha, labelled⟩ := exists_of_mem_mapM haggregates aggregate
      obtain ⟨text, here, labelled⟩ := bind_eq_ok.mp labelled
      cases labelled
      exact ⟨_, text, rfl, .inr ⟨a, ha, aggregateForm_of_aggregate here⟩⟩

-----------------------------------------------------------------------------------------
-- The order
-----------------------------------------------------------------------------------------

/-- An item of an order by an aggregate's label, or by a text that rows are grouped by. -/
def OrdersBy (s : Statement String) (parts : Parts) (item : Sql) : Prop :=
  ∃ key direction,
    item = key ++ [.text direction]
    ∧ (key ∈ parts.groups ∨ ∃ a ∈ s.aggregates, key = [.name a.label])

/-- What is written of an order is by an aggregate or a group exactly if the order is. -/
theorem IsWritten.ordersBy_iff (written : IsWritten d s parts) (shippedDialect : d ∈ shipped)
    (worded : s.Worded) {o : Order String} (ordered : o ∈ s.orderBy) {item : Sql}
    (h : orderItem d o = .ok item)
    : OrdersBy s parts item ↔ o.Grouped s := by
  rw [orderItem_eq] at h
  obtain ⟨key, hkey, h⟩ := bind_eq_ok.mp h
  obtain ⟨direction, _, h⟩ := bind_eq_ok.mp h
  cases h
  have keyed
      : OrdersBy s parts (key ++ [.text (" " ++ direction)])
        ↔ key ∈ parts.groups ∨ ∃ a ∈ s.aggregates, key = [.name a.label] := by
    constructor
    · rintro ⟨other, _, same, grouped⟩
      rwa [(List.append_inj' same rfl).1]
    · exact fun grouped => ⟨key, _, rfl, grouped⟩
  rw [keyed]
  cases by' : o.key with
  | label label =>
      simp only [orderKey, by'] at hkey
      obtain rfl : [.name label] = key := Except.ok.inj hkey
      have notGrouped : [Piece.name label] ∉ parts.groups := by
        intro member
        obtain ⟨g, listed, same⟩ := exists_of_mem_mapM written.groups member
        obtain ⟨word, granularity⟩ := worded.groups g listed
        rw [granularity] at same
        exact absurd same (truncated_ne_name shippedDialect g.column word label)
      simp [notGrouped, Order.Grouped, by', eq_comm]
  | column c granularity =>
      simp only [orderKey, by'] at hkey
      obtain ⟨word, rfl⟩ := (worded.orders o ordered).granularity c granularity by'
      have notLabel : ¬ ∃ a ∈ s.aggregates, key = [.name a.label] := by
        rintro ⟨a, _, rfl⟩
        exact absurd hkey (truncated_ne_name shippedDialect c word a.label)
      rw [written.mem_groups_iff shippedDialect worded hkey]
      simp only [notLabel, or_false, Order.Grouped, by']
  | nothing => simp only [orderKey, by', reduceCtorEq] at hkey

/-- Every item of the order is by an aggregate or a group exactly if every order is. -/
theorem IsWritten.forall_ordersBy_iff (written : IsWritten d s parts)
    (shippedDialect : d ∈ shipped) (worded : s.Worded) (rows : s.mode = .rows)
    : (∀ item ∈ parts.order, OrdersBy s parts item) ↔ ∀ o ∈ s.orderBy, o.Grouped s := by
  have order := written.order
  rw [if_neg (by simp [rows])] at order
  constructor
  · intro each o ordered
    obtain ⟨item, listed, same⟩ := exists_of_mapM order ordered
    exact (written.ordersBy_iff shippedDialect worded ordered same).mp (each item listed)
  · intro each item listed
    obtain ⟨o, ordered, same⟩ := exists_of_mem_mapM order listed
    exact (written.ordersBy_iff shippedDialect worded ordered same).mpr (each o ordered)

-----------------------------------------------------------------------------------------
-- Statements of aggregate queries
-----------------------------------------------------------------------------------------

variable {c : Catalog} {q : Query} {context : Context} {p : Plan}

/-- The described statement groups by what a reference is called where the query groups by the
reference.
-/
theorem groupsBy_named (h : Resolvable c q context p) {engine : String} (ref : ColumnRef)
    : (named c p engine).GroupsBy (c.columnName ref) ((granularityOf q ref).map .known)
      ↔ q.GroupsBy c ref := by
  have apart : Function.Injective (Option.map (Named.known (α := Granularity))) :=
    Option.map_injective fun _ _ => Named.known.inj
  simp only [Statement.GroupsBy, Query.GroupsBy, named, groupNamed, h.query_eq, List.mem_map,
    exists_exists_and_eq_and, apart.eq_iff]
  rfl

/-- An order of the described statement is by an aggregate or a group where that of the query is. -/
theorem grouped_orderNamed (h : Resolvable c q context p) {engine : String} (o : OrderItem)
    : (orderNamed c p o).Grouped (named c p engine)
      ↔ (o.column ∉ q.aggregateLabels → q.GroupsBy c (q.ref o.column)) := by
  unfold orderNamed
  rw [h.query_eq]
  by_cases label : o.column ∈ q.aggregateLabels
  · obtain ⟨a, member, same⟩ := List.mem_map.mp label
    simp only [label, if_true, not_true, false_implies, iff_true]
    refine ⟨aggregateNamed c p a, ?_, same⟩
    rw [named, h.query_eq]
    exact List.mem_map.mpr ⟨a, member, rfl⟩
  · simp only [label, if_false, not_false_eq_true, true_implies]
    exact groupsBy_named h (q.ref o.column)

/-- In the SQL of an aggregate query everything that is selected, but for the aggregates, is an
expression that rows are grouped by, and everything that they are ordered by, but for the
aggregates, is one exactly if the query orders by what it groups by.
-/
theorem ordersGrouped_iff {s : ScopedQuery} {facilities : Facilities} {tolerance : Freshness}
    (valid : Validation.issues c q = [])
    (granted : (Access.apply c q context).result = .ok s)
    (planned : (Planning.plan c facilities s context tolerance).result = .ok p)
    (needed : p.needsSql = true) (aggregate : q.isAggregate = true)
    : ∃ statement,
        (resolve p).result = .ok statement
        ∧ ∀ d ∈ shipped,
            ∀ sql,
              ofStatement d statement = .ok sql
              → ∃ parts,
                  IsWritten d statement parts
                  ∧ sql = join "\n" parts.lines
                  ∧ SelectsGrouped statement parts
                  ∧ ((∀ item ∈ parts.order, OrdersBy statement parts item)
                      ↔ q.OrdersByGroups c) := by
  have h := resolvable_of_plan valid granted planned
  obtain ⟨engine, hengine⟩ := Option.isSome_iff_exists.mp needed
  have worded := worded_of_resolve (h.resolve_eq hengine)
  have rows : (named c p engine).mode = .rows := by
    rw [named, h.query_eq]
    cases mode : q.mode with
    | rows => rfl
    | count => simp [Validation.not_aggregate_of_count valid mode] at aggregate
  have some : (named c p engine).groupBy ≠ [] ∨ (named c p engine).aggregates ≠ [] := by
    simp only [named, h.query_eq, ne_eq, List.map_eq_nil_iff]
    simpa [Query.isAggregate, or_comm] using aggregate
  refine ⟨named c p engine, h.resolve_eq hengine, fun d shippedDialect sql hsql => ?_⟩
  obtain ⟨lines, hlines, rfl⟩ := map_eq_ok.mp hsql
  obtain ⟨parts, written, rfl⟩ := exists_parts hlines
  refine ⟨parts, written, rfl, written.selectsGrouped rows some, ?_⟩
  have orders : (named c p engine).orderBy = q.orderBy.map (orderNamed c p) := by
    rw [named, h.query_eq]
  rw [written.forall_ordersBy_iff shippedDialect worded rows, orders, List.forall_mem_map]
  exact forall₂_congr fun o _ => grouped_orderNamed h o

end Sql

namespace Sample

/-- The number of the orders of each user, ordered by a column or by the number. -/
def countedInOrder (column : String) : Query :=
  { countedOrders "n" with orderBy := [⟨column, .descending⟩] }

/-- Users are ordered by what an order comes to, which their orders are not grouped by: the query
has no issues, and its order is no text that rows are grouped by.
-/
theorem counted_by_ungrouped_total
    : ∃ s p statement sql parts,
        Validation.issues catalog (countedInOrder "total") = []
        ∧ (Access.apply catalog (countedInOrder "total") context).result = .ok s
        ∧ (Planning.plan catalog facilities s context .hours).result = .ok p
        ∧ (Statement.resolve p).result = .ok statement
        ∧ Sql.ofStatement .postgres statement = .ok sql
        ∧ Sql.IsWritten .postgres statement parts
        ∧ parts.groups = [[.name "orders", .text ".", .name "user_id"]]
        ∧ parts.order = [[.name "orders", .text ".", .name "amount", .text " DESC"]]
        ∧ ¬ ∀ item ∈ parts.order, Sql.OrdersBy statement parts item := by
  refine ⟨_, _, _, _, ⟨_, _, _, _, _, _, _, _⟩, rfl, rfl, rfl, rfl, rfl,
    ⟨rfl, rfl, rfl, rfl, rfl, rfl, rfl, rfl⟩, rfl, rfl, fun ordered => ?_⟩
  obtain ⟨key, direction, same, grouped⟩ := ordered _ (List.mem_singleton.mpr rfl)
  obtain rfl : [.name "orders", .text ".", .name "amount"] = key := (List.append_inj' same rfl).1
  simp at grouped

/-- Users are ordered by themselves, which their orders are grouped by. -/
theorem counted_by_grouped_user
    : ∃ s p statement sql parts,
        (Access.apply catalog (countedInOrder "user") context).result = .ok s
        ∧ (Planning.plan catalog facilities s context .hours).result = .ok p
        ∧ (Statement.resolve p).result = .ok statement
        ∧ Sql.ofStatement .postgres statement = .ok sql
        ∧ Sql.IsWritten .postgres statement parts
        ∧ sql = Sql.join "\n" parts.lines
        ∧ Sql.SelectsGrouped statement parts
        ∧ ∀ item ∈ parts.order, Sql.OrdersBy statement parts item := by
  obtain ⟨s, p, granted, planned, needed, sql, made⟩
      : ∃ s p,
          (Access.apply catalog (countedInOrder "user") context).result = .ok s
          ∧ (Planning.plan catalog facilities s context .hours).result = .ok p
          ∧ p.needsSql = true
          ∧ ∃ sql, ((Statement.resolve p).result >>= Sql.ofStatement .postgres) = .ok sql :=
    ⟨_, _, rfl, rfl, rfl, _, rfl⟩
  have ordered : (countedInOrder "user").OrdersByGroups catalog := by
    intro o member _
    obtain rfl := List.mem_singleton.mp member
    exact ⟨_, List.mem_singleton.mpr rfl, rfl, rfl, rfl⟩
  obtain ⟨statement, resolved, each⟩ :=
    Sql.ordersGrouped_iff (by rfl) granted planned needed (by rfl)
  rw [resolved, Outcome.ok_bind] at made
  obtain ⟨parts, written, text, selected, exactly⟩ :=
    each .postgres (by simp [Sql.shipped]) sql made
  exact ⟨s, p, statement, sql, parts, granted, planned, resolved, made, written, text, selected,
    exactly.mpr ordered⟩

end Sample

end Polystore
