import Polystore.Access
import Polystore.Proofs.Entries.Firsts
import Polystore.Proofs.Entries.Lookup
import Polystore.Proofs.Trace.Outcomes

/-! What access control grants. Every table of a granted query has the rule of the role, whose
row rules stand behind the caller's filters with their values from the context, and every
column that the caller names is one that the rule of its table allows.
-/

namespace Polystore

-----------------------------------------------------------------------------------------
-- Row rules with their values
-----------------------------------------------------------------------------------------

/-- The value that a row rule compares with. A null check compares with none, and membership
is in the items of a list, or in the one value that is no list.
-/
def RowRule.operand (context : Context) (rule : RowRule) : Value :=
  if rule.operator.toOperator.isNullCheck then .null
  else
    let value := context.values.cell (rule.contextKey.getD "")
    match rule.operator with
    | .among =>
        .list
          (match value with
          | .list items => items
          | value => [value])
    | _ => value

/-- The condition that a row rule sets on a table in a context. -/
def RowRule.conditionOn (context : Context) (table : String) (rule : RowRule)
    : Condition ColumnRef :=
  ⟨.joined table rule.column, .known rule.operator.toOperator, rule.operand context, .rowRule⟩

/-- Whether a row rule has the value that it compares with. -/
def RowRule.Valued (context : Context) (rule : RowRule) : Prop :=
  rule.operator.toOperator.isNullCheck = false → (rule.operand context).isNull = false

namespace Access

variable {c : Catalog} {q : Query} {context : Context}

/-- A row rule sets its condition with its value, which it has. -/
theorem condition_eq_ok {table : String} {rule : RowRule} {found : Condition ColumnRef}
    (h : condition table context rule = .ok found)
    : found = rule.conditionOn context table ∧ rule.Valued context := by
  unfold condition at h
  unfold RowRule.conditionOn RowRule.Valued RowRule.operand
  cases check : rule.operator.toOperator.isNullCheck with
  | true =>
      simp only [check, if_true, Except.ok.injEq] at h
      rw [← h, if_pos rfl]
      exact ⟨rfl, nofun⟩
  | false =>
      simp only [check, Bool.false_eq_true, if_false] at h ⊢
      split at h
      · cases h
      next value present =>
        simp only [Except.ok.injEq] at h
        rw [← h]
        cases rule.operator <;> cases given : context.values.cell (rule.contextKey.getD "")
          <;> first | exact ⟨rfl, fun _ => rfl⟩ | exact absurd given present

/-- Row rules set their conditions in order with the values they have, by induction on the
rules.
-/
theorem conditions_eq_ok {table : String} {rules : List RowRule}
    {found : List (Condition ColumnRef)} (h : conditions table context rules = .ok found)
    : found = rules.map (RowRule.conditionOn context table)
      ∧ ∀ rule ∈ rules, rule.Valued context := by
  induction rules generalizing found with
  | nil => cases h; simp
  | cons rule rest ih =>
      obtain ⟨first, hfirst, h⟩ := Outcome.bind_eq_ok.mp h
      obtain ⟨later, hlater, h⟩ := Outcome.bind_eq_ok.mp h
      cases h
      obtain ⟨rfl, here⟩ := condition_eq_ok hfirst
      obtain ⟨rfl, behind⟩ := ih hlater
      exact ⟨rfl, List.forall_mem_cons.mpr ⟨here, behind⟩⟩

-----------------------------------------------------------------------------------------
-- The tables and columns that are granted
-----------------------------------------------------------------------------------------

/-- The scope of a table: what the rule of the role says of the table of that name. -/
structure Scopes (c : Catalog) (context : Context) (name : String) (rule : TableRule)
    (scope : Scope)
    : Prop where
  table : c.table? name = some scope.table
  ruled : c.rule? context.role scope.table = some rule
  allowed : scope.allowed = allowedColumns scope.table rule
  rows : scope.rows = rule.rows.map (RowRule.conditionOn context name)
  valued : ∀ row ∈ rule.rows, row.Valued context

/-- Leaving out references to the same column adds none. -/
theorem mem_of_distinctColumns {refs : List ColumnRef} {ref : ColumnRef}
    (member : ref ∈ distinctColumns refs)
    : ref ∈ refs :=
  (mem_of_mem_firsts refs member).resolve_left List.not_mem_nil

/-- Whether a reference is to a column that the rule of its table allows. -/
def Allows (s : ScopedQuery) (ref : ColumnRef) : Prop :=
  ∃ scope, s.scopes.lookup ref.table = some scope ∧ ref.column ∈ scope.allowed

/-- A query under access control, with the scopes of its tables in order and every column
that the caller names in the scope of its table.
-/
structure Granted (c : Catalog) (q : Query) (context : Context) (s : ScopedQuery)
    : Prop where
  query : s.query = q
  scopes
    : List.Forall₂
        (fun name e => e.1 = name ∧ ∃ rule, Scopes c context name rule e.2)
        q.tableNames s.scopes
  allowed : ∀ ref ∈ referencedColumns q, Allows s ref
  selection : s.selection = selection q (s.scopes.map fun e => (e.1, e.2.allowed))
  filters : s.filters = callerFilters q ++ s.scopes.values.flatMap (·.rows)

/-- The rules found are those of the role for the tables of the names, by induction on the
names.
-/
theorem rules_eq_ok {role : String} {names : List String}
    {found : Entries String (Table × TableRule)} (h : (rules c role names).result = .ok found)
    : List.Forall₂
        (fun name e =>
          e.1 = name ∧ c.table? name = some e.2.1 ∧ c.rule? role e.2.1 = some e.2.2)
        names found := by
  induction names generalizing found with
  | nil => cases h; exact .nil
  | cons name rest ih =>
      unfold rules at h
      split at h
      · cases h
      next t ht =>
        split at h
        · cases h
        next rule hrule =>
          rw [Traced.result_bind] at h
          obtain ⟨later, hlater, h⟩ := Outcome.bind_eq_ok.mp h
          cases h
          exact .cons ⟨rfl, ht, hrule⟩ (ih hlater)

/-- Checked columns are allowed on their tables, by induction on the columns. -/
theorem checkColumns_eq_ok {role : String} {allowed : Entries String (List String)}
    {refs : List ColumnRef} (h : (checkColumns role allowed refs).result = .ok ())
    : ∀ ref ∈ refs, ∃ names, allowed.lookup ref.table = some names ∧ ref.column ∈ names := by
  induction refs with
  | nil => simp
  | cons first rest ih =>
      unfold checkColumns at h
      split at h
      · cases h
      next names found =>
        split at h
        · next listed =>
            intro ref member
            rcases List.mem_cons.mp member with rfl | member
            · exact ⟨names, found, by simpa using listed⟩
            · exact ih h ref member
        · simp at h

/-- The scope that a rule for a table makes of a name. -/
def scopeEntry (context : Context) (e : String × Table × TableRule) : String × Scope :=
  (e.1,
    ⟨e.2.1, allowedColumns e.2.1 e.2.2, e.2.2.rows.map (RowRule.conditionOn context e.1)⟩)

/-- The scopes made of rules, which have their values, by induction on the rules. -/
theorem scopes_eq_ok {found : Entries String (Table × TableRule)} {made : Entries String Scope}
    (h : (scopes context found).result = .ok made)
    : made = found.map (scopeEntry context)
      ∧ ∀ e ∈ found, ∀ row ∈ e.2.2.rows, row.Valued context := by
  induction found generalizing made with
  | nil => cases h; simp
  | cons e rest ih =>
      obtain ⟨name, t, rule⟩ := e
      unfold scopes at h
      split at h
      · cases h
      next rows hrows =>
        simp only [Traced.result_bind] at h
        obtain ⟨_, _, h⟩ := Outcome.bind_eq_ok.mp h
        obtain ⟨later, hlater, h⟩ := Outcome.bind_eq_ok.mp h
        cases h
        obtain ⟨rfl, here⟩ := conditions_eq_ok hrows
        obtain ⟨rfl, behind⟩ := ih hlater
        exact ⟨rfl, List.forall_mem_cons.mpr ⟨here, behind⟩⟩

-----------------------------------------------------------------------------------------
-- The columns that clauses refer to
-----------------------------------------------------------------------------------------

theorem ref_mem_of_filter {f : Filter} (member : f ∈ q.filters)
    : q.ref f.column ∈ referencedColumns q := by
  simp only [referencedColumns, List.mem_append, List.mem_map]
  exact .inl (.inl (.inl (.inr ⟨f, member, rfl⟩)))

theorem ref_mem_of_order {o : OrderItem} (member : o ∈ q.orderBy)
    (column : o.column ∉ q.aggregateLabels)
    : q.ref o.column ∈ referencedColumns q := by
  simp only [referencedColumns, List.mem_append, List.mem_map, List.mem_filter]
  exact .inl (.inl (.inr ⟨o, ⟨member, by simpa using column⟩, rfl⟩))

theorem ref_mem_of_group {g : GroupItem} (member : g ∈ q.groupBy)
    : q.ref g.column ∈ referencedColumns q := by
  simp only [referencedColumns, List.mem_append, List.mem_map]
  exact .inl (.inr ⟨g, member, rfl⟩)

theorem ref_mem_of_aggregate {a : Aggregation} (member : a ∈ q.aggregations)
    {reference : String} (named : a.column = some reference) (some : reference.isEmpty = false)
    : q.ref reference ∈ referencedColumns q := by
  simp only [referencedColumns, List.mem_append, List.mem_map, List.mem_filter,
    List.mem_filterMap]
  exact .inr ⟨reference, ⟨⟨a, member, named⟩, by simp [some]⟩, rfl⟩

-----------------------------------------------------------------------------------------
-- Granted queries
-----------------------------------------------------------------------------------------

/-- A query that access control lets through is granted. -/
theorem granted_of_apply {s : ScopedQuery} (h : (apply c q context).result = .ok s)
    : Granted c q context s := by
  simp only [apply, Traced.result_bind] at h
  obtain ⟨found, hfound, h⟩ := Outcome.bind_eq_ok.mp h
  obtain ⟨_, checked, h⟩ := Outcome.bind_eq_ok.mp h
  simp only [Traced.result_note, Outcome.ok_bind] at h
  obtain ⟨made, hmade, h⟩ := Outcome.bind_eq_ok.mp h
  cases h
  obtain ⟨made_eq, valued⟩ := scopes_eq_ok hmade
  have allowed_eq
      : (made.map fun e => (e.1, e.2.allowed))
        = found.map fun e => (e.1, allowedColumns e.2.1 e.2.2) := by
    rw [made_eq, List.map_map]
    rfl
  constructor
  case query => rfl
  case scopes =>
    rw [made_eq, List.forall₂_map_right_iff]
    have both := (List.forall₂_and_left _ _).mpr ⟨valued, (rules_eq_ok hfound).flip⟩
    refine both.flip.imp fun name e ⟨rows, same, ht, hrule⟩ => ⟨same, e.2.2, ?_⟩
    exact ⟨ht, hrule, rfl, by rw [← same]; rfl, rows⟩
  case allowed =>
    intro ref member
    obtain ⟨names, listed, inside⟩ := checkColumns_eq_ok checked ref member
    rw [← allowed_eq, Entries.lookup_map] at listed
    obtain ⟨scope, hscope, rfl⟩ := Option.map_eq_some_iff.mp listed
    exact ⟨scope, hscope, inside⟩
  case selection => rw [allowed_eq]
  case filters => rfl

-----------------------------------------------------------------------------------------
-- What follows for the tables and the selection of a granted query
-----------------------------------------------------------------------------------------

namespace Granted

variable {s : ScopedQuery}

/-- The scopes are found by the names of the tables, each once. -/
theorem keys_eq (h : Granted c q context s) : s.scopes.keys = q.tableNames :=
  Entries.keys_of_forall₂ h.scopes

/-- A scope that is found is that of a touched table under the rule of the role. -/
theorem scopes_of_lookup (h : Granted c q context s) {name : String} {scope : Scope}
    (found : s.scopes.lookup name = some scope)
    : name ∈ q.tableNames ∧ ∃ rule, Scopes c context name rule scope :=
  Entries.of_lookup_of_forall₂ (R := fun name scope => ∃ rule, Scopes c context name rule scope)
    h.scopes found

/-- Every touched table has a scope. -/
theorem scope_of_mem (h : Granted c q context s) {name : String} (member : name ∈ q.tableNames)
    : ∃ scope, s.scopes.lookup name = some scope ∧ ∃ rule, Scopes c context name rule scope := by
  rw [← h.keys_eq] at member
  obtain ⟨scope, found⟩ := Entries.lookup_of_mem_keys member
  exact ⟨scope, found, (h.scopes_of_lookup found).2⟩

/-- A condition in the scopes is that of a row rule which the role has for a touched table. -/
theorem row_of_mem (h : Granted c q context s) {f : Condition ColumnRef}
    (member : f ∈ s.scopes.values.flatMap (·.rows))
    : ∃ name scope rule row,
        name ∈ q.tableNames
        ∧ Scopes c context name rule scope
        ∧ row ∈ rule.rows
        ∧ f = row.conditionOn context name := by
  obtain ⟨scope, hscope, hf⟩ := List.mem_flatMap.mp member
  obtain ⟨⟨name, _⟩, hentry, rfl⟩ := List.mem_map.mp hscope
  obtain ⟨touched, rule, rights⟩ := Entries.of_mem_of_forall₂
    (R := fun name scope => ∃ rule, Scopes c context name rule scope) h.scopes hentry
  rw [rights.rows] at hf
  obtain ⟨row, hrow, rfl⟩ := List.mem_map.mp hf
  exact ⟨name, _, rule, row, touched, rights, hrow, rfl⟩

/-- Everything that is selected is allowed, whether it is selected by name or by default. -/
theorem allows_of_selection (h : Granted c q context s) {ref : ColumnRef}
    (member : ref ∈ s.selection)
    : Allows s ref := by
  have inDefault {name column : String} {ref : ColumnRef} (same : ref.table = name)
      (is : ref.column = column)
      (listed
        : column ∈ (((s.scopes.map fun e => (e.1, e.2.allowed)).lookup name).getD []))
      : Allows s ref := by
    rw [Entries.lookup_map] at listed
    cases found : s.scopes.lookup name with
    | none => simp [found] at listed
    | some scope =>
        simp only [found, Option.map_some, Option.getD_some] at listed
        exact ⟨scope, same ▸ found, is ▸ listed⟩
  rw [h.selection] at member
  unfold Access.selection at member
  split at member
  · simp at member
  · split at member
    · rcases List.mem_append.mp member with own | joined
      · obtain ⟨column, listed, rfl⟩ := List.mem_map.mp own
        exact inDefault rfl rfl listed
      · obtain ⟨j, _, inJoin⟩ := List.mem_flatMap.mp joined
        obtain ⟨column, listed, rfl⟩ := List.mem_map.mp inJoin
        exact inDefault rfl rfl listed
    · have named := mem_of_distinctColumns member
      exact h.allowed ref (by simp only [referencedColumns, List.mem_append, named, true_or])

end Granted

end Access

/-- The context of a clerk of one tenant. -/
def Sample.context : Context := ⟨"clerk", [("tenant", .text "acme")]⟩

end Polystore
