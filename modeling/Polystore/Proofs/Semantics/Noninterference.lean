import Polystore.Proofs.Semantics.Agreement
import Polystore.Proofs.Semantics.Hiding
import Polystore.Proofs.Semantics.Visibility
import Polystore.Proofs.Statement.ColumnAccess

/-! What a role cannot see does not matter. The statement of a query comes to the same result
over any stored rows of which the role sees the same, however they differ in hidden rows and in
columns that the statement has no business with.
-/

namespace Polystore.Semantics

open Statement

-----------------------------------------------------------------------------------------
-- What rows are compared by
-----------------------------------------------------------------------------------------

/-- The columns of stored rows by which two of them are compared: those that the role may read,
those of its row rules, those that the joins of the statement are equalities of, and the key
where the query asks for ids.
-/
inductive Observed (c : Catalog) (q : Query) (context : Context) (s : Statement String)
    (column : ColumnName String)
    : Prop
  | permitted (permits : c.Permits context column)
  | ruled {f : Condition ColumnRef} (member : f ∈ c.rowConditions context column.table)
    (same : (c.columnName f.column).physicalName = column.physicalName)
  | linked {j : Statement.Join String} (member : j ∈ s.joins)
    (same : column = j.left ∨ column = j.right)
  | key {t : Table} {key : String} (asked : q.byIds.isSome) (source : column.table = q.source)
    (found : c.table? q.source = some t) (member : key ∈ t.primaryKey)
    (same : (c.columnName ⟨q.source, key, false⟩).physicalName = column.physicalName)

variable {c : Catalog} {q : Query} {context : Context} {p : Plan} {v : Conventions}

-----------------------------------------------------------------------------------------
-- Statements of queries show visible rows only
-----------------------------------------------------------------------------------------

/-- The described statement shows no rows but visible ones: those of left-joined tables are
sorted out in their joins, and all others behind them.
-/
theorem shielded_named (h : Resolvable c q context p) (engine : String)
    : Shielded v (visible v c context) (leftJoined q) (named c p engine) := by
  constructor
  case distinct =>
    rw [h.tables_eq engine]
    exact h.accepted.tableNames_nodup
  case first =>
    have source := source_not_leftJoined h.accepted
    rw [named, h.query_eq, tableNamed_apiName]
    simpa using source
  case joins =>
    intro join member
    rw [named, h.query_eq] at member
    obtain ⟨j, hj, rfl⟩ := List.mem_map.mp member
    have name : (joinNamed c p j).table.apiName = j.table := tableNamed_apiName j.table
    constructor
    case outer =>
      rw [name, Bool.eq_iff_iff]
      simpa [joinNamed] using mem_leftJoined h.accepted hj
    case conditions =>
      intro x row new
      rw [name] at new ⊢
      rw [joinNamed, h.joinConditions_eq hj]
      cases kind : j.kind with
      | inner => simp [meetsAll]
      | left =>
          rw [if_pos rfl, meetsAll_rowConditions (Entries.lookup_append_new new)]
          simp
  case conditions =>
    intro x keys met
    rw [h.tables_eq engine] at keys
    rw [alive, List.all_eq_true]
    intro e member
    have touched : e.1 ∈ q.tableNames := by
      rw [← keys]
      exact List.mem_map.mpr ⟨e, member, rfl⟩
    have found : x.lookup e.1 = some e.2 :=
      Entries.lookup_of_mem (by rw [keys]; exact h.accepted.tableNames_nodup) member
    cases left : (leftJoined q).contains e.1 with
    | true => rfl
    | false =>
        rw [Bool.false_or, ← meetsAll_rowConditions found, meetsAll, List.all_eq_true]
        rw [meetsAll, List.all_eq_true] at met
        intro f hf
        apply met
        rw [h.conditions_eq, List.map_append]
        refine List.mem_append_right _ (List.mem_append_right _ ?_)
        obtain ⟨row, hrow, rfl⟩ := List.mem_map.mp hf
        refine List.mem_map.mpr ⟨row, List.mem_flatMap.mpr ⟨e.1, ?_, hrow⟩, rfl⟩
        exact List.mem_filter.mpr ⟨touched, by rw [left]; rfl⟩

-----------------------------------------------------------------------------------------
-- Statements of queries see observed columns only
-----------------------------------------------------------------------------------------

theorem observed_of_row {s : Statement String} {name : String} {f : Condition ColumnRef}
    (member : f ∈ c.rowConditions context name)
    : Observed c q context s (c.conditionNamed f).column := by
  have table : (c.conditionNamed f).column.table = name := (of_mem_rowConditions member).2
  exact .ruled (by rw [table]; exact member) rfl

/-- Every column of the described statement is observed. -/
theorem seen_named (h : Resolvable c q context p) {engine : String}
    (needed : p.engine = some engine)
    : Seen (Observed c q context (named c p engine)) (named c p engine) := by
  have chosen {column : ColumnName String}
      (member : column ∈ (named c p engine).chosenColumns)
      : Observed c q context (named c p engine) column :=
    .permitted (h.permits_of_chosenColumns member)
  simp only [chosenColumns, List.mem_append] at chosen
  constructor
  case joins =>
    intro join member
    refine ⟨.linked member (.inl rfl), .linked member (.inr rfl), ?_⟩
    intro f hf
    have inJoins : f ∈ (named c p engine).joins.flatMap (·.conditions) :=
      List.mem_flatMap.mpr ⟨join, member, hf⟩
    rw [h.inJoins_eq] at inJoins
    obtain ⟨row, hrow, rfl⟩ := List.mem_map.mp inJoins
    obtain ⟨name, _, hrow⟩ := List.mem_flatMap.mp hrow
    exact observed_of_row hrow
  case conditions =>
    intro f member
    cases source : f.source with
    | caller =>
        refine chosen (.inl (.inl (.inl (.inl (.inr ?_)))))
        exact List.mem_map.mpr ⟨f, List.mem_filter.mpr ⟨member, by simp [source]⟩, rfl⟩
    | ids =>
        have restricted : f.column ∈ (named c p engine).restricted .ids :=
          List.mem_map.mpr ⟨f, List.mem_filter.mpr ⟨member, by simp [source]⟩, rfl⟩
        obtain ⟨t, key, asked, found, single, same⟩ := (h.mem_restricted_ids needed).mp restricted
        rw [same]
        exact .key asked rfl found (by rw [single]; simp) rfl
    | rowRule =>
        rw [h.conditions_eq, List.map_append, List.mem_append, List.mem_append] at member
        rcases member with ids | own | row
        · rw [h.restrictsIds.2 f ids] at source
          cases source
        · obtain ⟨filter, hfilter, rfl⟩ := List.mem_map.mp own
          rw [Catalog.conditionNamed, Condition.on, of_mem_callerFilters hfilter] at source
          cases source
        · obtain ⟨rule, hrule, rfl⟩ := List.mem_map.mp row
          obtain ⟨name, _, hrule⟩ := List.mem_flatMap.mp hrule
          exact observed_of_row hrule
  case columns => exact fun column member => chosen (.inl (.inl (.inl (.inl (.inl member)))))
  case groups =>
    intro g member
    exact chosen (.inl (.inl (.inl (.inr (List.mem_map.mpr ⟨g, member, rfl⟩)))))
  case aggregates =>
    intro a member column has
    exact chosen (.inl (.inl (.inr (List.mem_filterMap.mpr ⟨a, member, has⟩))))
  case having =>
    intro predicate member column has
    exact chosen (.inl (.inr (List.mem_filterMap.mpr ⟨predicate, member, has⟩)))
  case order =>
    intro o member column granularity has
    exact chosen (.inr (List.mem_filterMap.mpr ⟨o, member, by rw [has]⟩))

-----------------------------------------------------------------------------------------
-- Noninterference
-----------------------------------------------------------------------------------------

/-- A role's query comes to the same result over any two storages of which the role sees the
same: for each table that the query touches, the visible rows agree in order on the observed
columns. Hidden rows and all other columns may differ at will.
-/
theorem evaluate_eq_of_agree {s : ScopedQuery} {facilities : Facilities} {tolerance : Freshness}
    {statement : Statement String}
    (valid : Validation.issues c q = [])
    (granted : (Access.apply c q context).result = .ok s)
    (planned : (Planning.plan c facilities s context tolerance).result = .ok p)
    (resolved : (resolve p).result = .ok statement)
    (v : Conventions) (left right : Storage)
    (agree
      : ∀ t ∈ statement.table :: statement.joins.map (·.table),
          List.Forall₂ (AgreeOn (Observed c q context statement) t.apiName)
            ((left.contents t).filter (visible v c context t.apiName))
            ((right.contents t).filter (visible v c context t.apiName)))
    : evaluate v statement left = evaluate v statement right := by
  have h := resolvable_of_plan valid granted planned
  obtain ⟨engine, needed, rfl⟩ := h.eq_named resolved
  have shielded := shielded_named (v := v) h engine
  have same
      : (kept v (named c p engine) (left.contents.shown (visible v c context))).map
          (contribution v (named c p engine))
        = (kept v (named c p engine) (right.contents.shown (visible v c context))).map
          (contribution v (named c p engine)) :=
    contributions_eq (seen_named h needed) agree
  rw [evaluate, evaluate, kept_shown shielded left.contents, kept_shown shielded right.contents,
    same]

end Polystore.Semantics

namespace Polystore.Sample

open Semantics

/-- Two orders of one tenant, by users of whom only one is of the same tenant; and, perhaps,
rows of another tenant.
-/
def storage (others : Bool) : Storage := fun place =>
  if place.physicalName = "shop_orders" then
    [[("order_id", .int 1), ("user_id", .int 7), ("amount", .int 20), ("tenant_id", .text "acme")],
      [("order_id", .int 2), ("user_id", .int 8), ("amount", .int 30),
        ("tenant_id", .text "acme")]]
      ++ if others then
        [[("order_id", .int 1), ("user_id", .int 7), ("amount", .int 99),
          ("tenant_id", .text "other")]]
      else []
  else
    [[("user_id", .int 7), ("full_name", .text "Ann"), ("tenant_id", .text "acme")]]
      ++ if others then
        [[("user_id", .int 8), ("full_name", .text "Bob"), ("tenant_id", .text "other")]]
      else []

/-- The rows of the other tenant, even where they would be joined, change nothing. -/
theorem storage_others_hidden
    : ∃ s p statement,
        (Access.apply catalog query context).result = .ok s
        ∧ (Planning.plan catalog facilities s context .hours).result = .ok p
        ∧ (Statement.resolve p).result = .ok statement
        ∧ evaluate conventions statement (storage true)
          = evaluate conventions statement (storage false)
        ∧ evaluate conventions statement (storage false)
          = [[("total", .int 30), ("users.name", .null)],
              [("total", .int 20), ("users.name", .text "Ann")]] := by
  obtain ⟨s, p, statement, granted, planned, resolved, tables, result⟩
      : ∃ s p statement,
          (Access.apply catalog query context).result = .ok s
          ∧ (Planning.plan catalog facilities s context .hours).result = .ok p
          ∧ (Statement.resolve p).result = .ok statement
          ∧ statement.table :: statement.joins.map (·.table)
            = [⟨"orders", "shop_orders", none, none⟩, ⟨"users", "app_users", none, none⟩]
          ∧ evaluate conventions statement (storage false)
            = [[("total", .int 30), ("users.name", .null)],
                [("total", .int 20), ("users.name", .text "Ann")]] :=
    ⟨_, _, _, rfl, rfl, rfl, rfl, rfl⟩
  refine ⟨s, p, statement, granted, planned, resolved, ?_, result⟩
  refine evaluate_eq_of_agree (by rfl) granted planned resolved conventions (storage true)
    (storage false) ?_
  rw [tables]
  have shown
      : ∀ t ∈ [⟨"orders", "shop_orders", none, none⟩, ⟨"users", "app_users", none, none⟩],
          ((storage true).contents t).filter (visible conventions catalog context t.apiName)
          = ((storage false).contents t).filter
              (visible conventions catalog context t.apiName) := by
    intro t member
    rcases List.mem_cons.mp member with rfl | member
    · rfl
    · rw [List.mem_singleton.mp member]
      rfl
  intro t member
  rw [shown t member, List.forall₂_same]
  exact fun _ _ _ _ _ => rfl

end Polystore.Sample
