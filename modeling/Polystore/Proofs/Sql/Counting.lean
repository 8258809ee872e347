import Polystore.Proofs.Sql.Joining

/-! Statements that count. The number of the rows of a statement is asked for by the lines that say
which rows these are, those of its table, its joins and its conditions, and by no other line of it.
They read the same as in the statement, since nothing in front of them has parameters.
-/

namespace Polystore

namespace Statement

/-- The statement for the number of rows. -/
def counting (s : Statement String) : Statement String := { s with mode := .count }

/-- A statement that neither groups rows nor compares aggregates of them. -/
structure Ungrouped (s : Statement String) : Prop where
  groupBy : s.groupBy = []
  having : s.having = []

end Statement

namespace Sql

open Statement

variable {d : Dialect} {s : Statement String} {p : Parts}

-----------------------------------------------------------------------------------------
-- The lines of a statement
-----------------------------------------------------------------------------------------

/-- The lines that say which rows a statement is about: its table, its joins and its conditions. -/
def Parts.body (p : Parts) : List Sql :=
  (.text "FROM " :: p.table) :: p.joins ++ clause "WHERE " " AND " p.conditions

/-- The lines that say in which order rows come, and which of them. -/
def Parts.ending (p : Parts) : List Sql :=
  clause "ORDER BY " ", " p.order ++ p.paging.map fun line => [.text line]

/-- What a statement selects that counts. -/
def countSelect : Sql := [.text "SELECT ", .text "COUNT(*)", .text " AS ", .name "count"]

/-- The clauses of the parts of a statement are those of the statement. -/
theorem IsWritten.clauses_eq (h : IsWritten d s p) : clauses d s = .ok p.lines := by
  have having
      : (s.having.mapM fun predicate => do
          compare d (← aggregate predicate.aggregate) predicate.op predicate.value)
        = .ok p.having := h.having
  have order := h.order
  have paging := h.paging
  unfold clauses
  simp only [h.select, h.table, h.joins, h.conditions, h.groups, having, Outcome.ok_bind]
  by_cases counts : s.mode = .count
  · rw [if_pos counts, Except.ok.injEq] at order paging
    rw [if_pos counts, if_pos counts, Parts.lines, ← order, ← paging]
    rfl
  · rw [if_neg counts] at order paging
    simp only [if_neg counts, order, paging, Outcome.ok_bind]
    rfl

/-- The lines of an ungrouped statement. -/
theorem IsWritten.lines_eq (h : IsWritten d s p) (ungrouped : s.Ungrouped)
    : p.lines = p.select :: p.body ++ p.ending := by
  have groups := h.groups
  have having := h.having
  rw [ungrouped.groupBy] at groups
  rw [ungrouped.having] at having
  have noGroups : p.groups = [] := (Except.ok.inj groups).symm
  have noHaving : p.having = [] := (Except.ok.inj having).symm
  simp [Parts.lines, Parts.body, Parts.ending, noGroups, noHaving, clause]

/-- A statement that counts has the parts of the statement, but for another selection, without
order or page.
-/
theorem IsWritten.counting (h : IsWritten d s p)
    : IsWritten d s.counting { p with select := countSelect, order := [], paging := [] } where
  select := rfl
  table := h.table
  joins := h.joins
  conditions := h.conditions
  groups := h.groups
  having := h.having
  order := if_pos rfl
  paging := if_pos rfl

/-- All parameters of an ungrouped statement are in the lines that say which rows it is about. -/
theorem IsWritten.params_eq (h : IsWritten d s p) (ungrouped : s.Ungrouped)
    : params (join "\n" p.lines) = params (join "\n" p.body) := by
  have order : p.order.flatMap params = [] := List.flatMap_eq_nil_iff.mpr (params_order h)
  have paging : (p.paging.map fun line => [Piece.text line]).flatMap params = [] :=
    List.flatMap_eq_nil_iff.mpr (by simp)
  have ending : p.ending.flatMap params = [] := by
    rw [Parts.ending, List.flatMap_append, params_clause, order, paging, List.nil_append]
  rw [params_join, params_join, h.lines_eq ungrouped, List.flatMap_append, ending,
    List.flatMap_cons, params_select h.select, List.nil_append, List.append_nil]

theorem render_countSelect (d : Dialect)
    : d.render countSelect = "SELECT COUNT(*) AS " ++ d.quote "count" := by
  simp [Dialect.render, countSelect, renderFrom, ← String.append_assoc]

-----------------------------------------------------------------------------------------
-- The SQL of a statement and of its number of rows
-----------------------------------------------------------------------------------------

/-- SQL for the number of rows of other SQL: it runs in the same place with the same parameters, and
counts what the lines for table, joins and conditions give, as they read in the other SQL.
-/
structure Counts (d : Dialect) (s : Statement String) (rows count : Compiled) : Prop where
  dialect : count.dialect = rows.dialect
  target : count.target = rows.target
  params : count.params = rows.params
  sql
    : ∃ p tail,
        IsWritten d s p
        ∧ rows.sql = d.render (join "\n" p.lines)
        ∧ rows.sql = d.render p.select ++ "\n" ++ d.render (join "\n" p.body) ++ tail
        ∧ count.sql
          = "SELECT COUNT(*) AS " ++ d.quote "count" ++ "\n" ++ d.render (join "\n" p.body)

/-- A statement that is written has its number of rows written. -/
theorem exists_count (ungrouped : s.Ungrouped) {rows : Compiled}
    (written : Compiled.ofStatement d s = .ok rows)
    : ∃ count, Compiled.ofStatement d s.counting = .ok count ∧ Counts d s rows count := by
  obtain ⟨sql, made, h⟩ := Outcome.bind_eq_ok.mp written
  cases h
  obtain ⟨lines, listed, rfl⟩ := Outcome.map_eq_ok.mp made
  obtain ⟨p, parts, rfl⟩ := exists_parts listed
  have counted
      : ofStatement d s.counting = .ok (join "\n" (countSelect :: p.body)) := by
    rw [ofStatement, parts.counting.clauses_eq, parts.counting.lines_eq ⟨ungrouped.1, ungrouped.2⟩]
    simp [Parts.body, Parts.ending, clause]
  have some : p.body ≠ [] := List.cons_ne_nil _ _
  obtain ⟨tail, whole⟩ := exists_render_join_append (d := d) some p.ending
  refine ⟨⟨d.render _, params _, d.name, s.target⟩, congrArg (Functor.map _) counted, rfl, rfl, ?_,
    p, tail, parts, rfl, ?_, ?_⟩
  · rw [parts.params_eq ungrouped]
    simp only [params_join, List.flatMap_cons]
    rfl
  · dsimp only
    rw [parts.lines_eq ungrouped, List.cons_append, render_join_cons (params_select parts.select)
      (List.append_ne_nil_of_left_ne_nil some _), whole, String.append_assoc, String.append_assoc,
      String.append_assoc]
  · dsimp only
    rw [render_join_cons rfl some, render_countSelect]

end Sql

end Polystore
