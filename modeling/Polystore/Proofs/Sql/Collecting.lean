import Polystore.Proofs.Sql.Joining
import Polystore.Sql.Collecting

/-! Statements written with a collector of parameters. Where each value is taken up as its clause is
written, the marks and the parameters are those of the pieces numbered from left to right.
-/

namespace Polystore.Sql.Collecting

open Statement

variable {d : Dialect} {α β : Type}

-----------------------------------------------------------------------------------------
-- Writers with a collector
-----------------------------------------------------------------------------------------

/-- A writer with a collector that gives the text of another. It numbers the slots on from the
parameters that are taken up so far, and takes up those of the text.
-/
def Collects (d : Dialect) (x : Collecting String) (w : Written) : Prop :=
  ∀ taken,
    x.run taken
    = (fun sql =>
        (sql.renderFrom d.quote d.placeholder (taken.length + 1), taken ++ sql.params)) <$> w

/-- A step with a collector is one without, if it gives the same and what follows it is. -/
theorem run_bind {γ δ : Type} {x : Collecting α} {f : α → Collecting γ} {w : Except Failure β}
    {g : β → Except Failure δ} {taken : List Value} {shown : β → α × List Value}
    {whole : δ → γ × List Value} (first : x.run taken = shown <$> w)
    (behind : ∀ b, w = .ok b → (f (shown b).1).run (shown b).2 = whole <$> g b)
    : (x >>= f).run taken = whole <$> (w >>= g) := by
  rw [StateT.run_bind, first]
  cases w with
  | error failure => rfl
  | ok b => exact behind b rfl

theorem run_fragment (w : Written) (taken : List Value)
    : (fragment d w).run taken = (fun sql => (d.render sql, taken)) <$> w := by
  cases w <;> rfl

theorem run_liftM (w : Except Failure α) (taken : List Value)
    : (liftM w : Collecting α).run taken = (fun a => (a, taken)) <$> w := by
  cases w <;> rfl

theorem run_fragments (w : α → Written) (items : List α) (taken : List Value)
    : (items.mapM fun a => fragment d (w a)).run taken
      = (fun lines => (lines.map d.render, taken)) <$> items.mapM w := by
  induction items with
  | nil => rfl
  | cons a rest ih =>
      rw [List.mapM_cons, List.mapM_cons]
      refine run_bind (run_fragment (w a) taken) fun sql _ => ?_
      refine run_bind ih fun lines _ => ?_
      rfl

/-- Writers one after the other take up what each of them does, by induction on the items. -/
theorem run_mapM {x : α → Collecting String} {w : α → Written} {items : List α}
    (each : ∀ a ∈ items, Collects d (x a) (w a)) (taken : List Value)
    : (items.mapM x).run taken
      = (fun lines => (numbered d (taken.length + 1) lines, taken ++ lines.flatMap params))
        <$> items.mapM w := by
  induction items generalizing taken with
  | nil => simp [numbered]
  | cons a rest ih =>
      rw [List.mapM_cons, List.mapM_cons]
      refine run_bind (each a List.mem_cons_self taken) fun sql _ => ?_
      refine run_bind (ih (fun other member => each other (List.mem_cons_of_mem _ member)) _)
        fun lines _ => ?_
      simp [numbered, Nat.add_right_comm]

-----------------------------------------------------------------------------------------
-- Predicates with a collector
-----------------------------------------------------------------------------------------

theorem collects_compare {left : Sql} (plain : params left = []) (op : Named Operator)
    (value : Value)
    : Collects d (compare d (d.render left) op value) (Sql.compare d left op value) := by
  intro taken
  unfold compare Sql.compare
  cases sign op with
  | error failure => rfl
  | ok word =>
      cases value
      all_goals
        simp [renderFrom_append, renderFrom, plain, renderFrom_of_plain plain, add,
          toString, String.append_assoc]

/-- Membership reads the same with the marks in their places as with the slots for them. -/
theorem renderFrom_membership (shippedDialect : d ∈ shipped) {column : Sql}
    (plain : params column = []) (n : Nat) (items : Value)
    : (d.membership column [.slot items]).renderFrom d.quote d.placeholder n
      = d.render
          (d.membership [.text (d.render column)] [.text (d.placeholder (toString n))]) := by
  change _ = renderFrom d.quote d.placeholder 1 _
  rcases membership_layout shippedDialect with ⟨_, _, layout⟩ | ⟨_, _, _, layout⟩
  · simp [layout, renderFrom_append, renderFrom, plain, renderFrom_of_plain plain]
  · simp [layout, renderFrom_append, renderFrom, renderFrom_of_plain plain]

theorem collects_member (shippedDialect : d ∈ shipped) {column : Sql} (plain : params column = [])
    (value : Value)
    : Collects d (member d (d.render column) value) (Sql.member d column value) := by
  intro taken
  unfold member Sql.member
  split
  · simp [renderFrom]
  · cases value.elements? with
    | none => rfl
    | some items =>
        simp [add, renderFrom_membership shippedDialect plain,
          params_membership shippedDialect plain]

theorem collects_condition (shippedDialect : d ∈ shipped) (c : Condition (ColumnName String))
    : Collects d (condition d c) (Sql.condition d c) := by
  intro taken
  refine run_bind (run_fragment (column c.column) taken) fun column named => ?_
  have plain := params_column named
  cases c.op with
  | unknown word => exact collects_compare plain (.unknown word) c.value taken
  | known op =>
      cases op with
      | isNull | isNotNull =>
          simp [renderFrom_append, renderFrom, renderFrom_of_plain plain, plain]
      | among => exact collects_member shippedDialect plain c.value taken
      | _ => exact collects_compare plain _ c.value taken

-----------------------------------------------------------------------------------------
-- Statements with a collector
-----------------------------------------------------------------------------------------

theorem collects_joinClause (shippedDialect : d ∈ shipped) (j : Statement.Join String)
    : Collects d (joinClause d j) (Sql.joinClause d j) := by
  intro taken
  refine run_bind (run_fragment (column j.left) taken) fun left leftNamed => ?_
  refine run_bind (run_fragment (column j.right) taken) fun right rightNamed => ?_
  refine run_bind (run_mapM (fun c _ => collects_condition shippedDialect c) taken)
    fun conditions _ => ?_
  refine run_bind (run_fragment (source d j.table) _) fun table named => ?_
  have plain := params_source named
  have hleft := params_column leftNamed
  have hright := params_column rightNamed
  cases j.kind
  all_goals
    simp [renderFrom_append, renderFrom, renderFrom_of_plain plain, plain, renderFrom_join,
      params_join, numbered, renderFrom_of_plain hleft, renderFrom_of_plain hright, hleft, hright,
      toString, String.append_assoc]

/-- A clause is numbered as its items are. -/
theorem numbered_clause (keyword separator : String) (n : Nat) (items : List Sql)
    : numbered d n (Sql.clause keyword separator items)
      = clause keyword separator (numbered d n items) := by
  cases items with
  | nil => rfl
  | cons first rest =>
      simp [Sql.clause, clause, numbered, renderFrom, renderFrom_join]

theorem collects_having (h : Statement.Having String)
    : Collects d (do compare d (← fragment d (aggregate h.aggregate)) h.op h.value)
        (havingItem d h) := by
  intro taken
  refine run_bind (run_fragment (aggregate h.aggregate) taken) fun left written => ?_
  exact collects_compare (params_aggregate written) h.op h.value taken

/-- Of the lines of a statement, those of its joins, its conditions and the conditions on aggregates
have parameters.
-/
theorem params_lines {s : Statement String} {p : Parts} (h : IsWritten d s p) (taken : List Value)
    : taken ++ p.lines.flatMap params
      = taken ++ p.joins.flatMap params ++ p.conditions.flatMap params
        ++ p.having.flatMap params := by
  have groups : p.groups.flatMap params = [] := List.flatMap_eq_nil_iff.mpr (params_groups h)
  have order : p.order.flatMap params = [] := List.flatMap_eq_nil_iff.mpr (params_order h)
  have paging : (p.paging.map fun line => [Piece.text line]).flatMap params = [] :=
    List.flatMap_eq_nil_iff.mpr (by simp)
  simp only [Parts.lines, List.flatMap_append, List.flatMap_cons, params_clause, params_text,
    params_select h.select, params_source h.table, groups, order, paging, List.nil_append,
    List.append_nil, List.append_assoc]

/-- The lines of a statement, each numbered on from the parameters of those before. -/
theorem numbered_lines {s : Statement String} {p : Parts} (h : IsWritten d s p)
    (taken : List Value)
    : numbered d (taken.length + 1) p.lines
      = d.render p.select :: ("FROM " ++ d.render p.table)
          :: numbered d (taken.length + 1) p.joins
        ++ clause "WHERE " " AND "
            (numbered d ((taken ++ p.joins.flatMap params).length + 1) p.conditions)
        ++ clause "GROUP BY " ", " (p.groups.map d.render)
        ++ clause "HAVING " " AND "
            (numbered d
              ((taken ++ p.joins.flatMap params ++ p.conditions.flatMap params).length + 1)
              p.having)
        ++ clause "ORDER BY " ", " (p.order.map d.render) ++ p.paging := by
  have select := params_select h.select
  have table := params_source h.table
  have noGroups : p.groups.flatMap params = [] := List.flatMap_eq_nil_iff.mpr (params_groups h)
  have pages (n : Nat) : numbered d n (p.paging.map fun line => [.text line]) = p.paging := by
    rw [numbered_of_plain (by simp)]
    simp [Function.comp_def, Dialect.render, renderFrom]
  simp only [Parts.lines, List.cons_append, numbered_append, numbered, numbered_clause,
    params_clause, renderFrom, List.length_append, List.append_assoc, select, table, params_text,
    renderFrom_of_plain select, renderFrom_of_plain table, noGroups, pages,
    numbered_of_plain (params_groups h), numbered_of_plain (params_order h), List.length_nil,
    Nat.add_zero, Nat.add_right_comm _ 1, Nat.add_assoc]

/-- The lines of a statement are those that the pieces give, numbered from the parameters that are
taken up so far.
-/
theorem run_clauses (shippedDialect : d ∈ shipped) (s : Statement String) (taken : List Value)
    : (clauses d s).run taken
      = (fun lines => (numbered d (taken.length + 1) lines, taken ++ lines.flatMap params))
        <$> Sql.clauses d s := by
  refine run_bind (run_fragment (select d s) taken) fun select hselect => ?_
  refine run_bind (run_fragment (source d s.table) taken) fun table htable => ?_
  refine run_bind (run_mapM (fun j _ => collects_joinClause shippedDialect j) taken)
    fun joins hjoins => ?_
  refine run_bind (run_mapM (fun c _ => collects_condition shippedDialect c) _)
    fun conditions hconditions => ?_
  refine run_bind (run_fragments _ _ _) fun groups hgroups => ?_
  refine run_bind (run_mapM (fun h _ => collects_having h) _) fun having hhaving => ?_
  by_cases counts : s.mode = .count
  · simp only [if_pos counts]
    have written : IsWritten d s ⟨select, table, joins, conditions, groups, having, [], []⟩ :=
      ⟨hselect, htable, hjoins, hconditions, hgroups, hhaving, if_pos counts, if_pos counts⟩
    exact congrArg Except.ok
      (Prod.ext (numbered_lines written taken) (params_lines written taken)).symm
  · simp only [if_neg counts]
    refine run_bind (run_fragments _ _ _) fun order horder => ?_
    refine run_bind (run_liftM _ _) fun paging hpaging => ?_
    have written
        : IsWritten d s ⟨select, table, joins, conditions, groups, having, order, paging⟩ :=
      ⟨hselect, htable, hjoins, hconditions, hgroups, hhaving, (if_neg counts).trans horder,
        (if_neg counts).trans hpaging⟩
    exact congrArg Except.ok
      (Prod.ext (numbered_lines written taken) (params_lines written taken)).symm

/-- A statement that is written with a collector is the one whose pieces are numbered at the end,
with the same text, the same parameters, and the same reason where it cannot be written.
-/
theorem compiled_eq (shippedDialect : d ∈ shipped) (s : Statement String)
    : compiled d s = Compiled.ofStatement d s := by
  unfold compiled Compiled.ofStatement Sql.ofStatement
  rw [run_clauses shippedDialect]
  cases Sql.clauses d s with
  | error failure => rfl
  | ok lines =>
      simp only [Outcome.map_ok, Outcome.ok_bind, List.length_nil, List.nil_append, Dialect.render,
        renderFrom_join, params_join, Nat.zero_add]

end Polystore.Sql.Collecting
