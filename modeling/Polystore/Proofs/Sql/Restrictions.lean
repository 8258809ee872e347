import Polystore.Proofs.Trace.Outcomes
import Polystore.Sql.Generation

/-! Statements that are restricted to other ids. Which ids a statement is restricted to decides
what its parameters are, but not whether there is SQL for it, nor why there is none.
-/

namespace Polystore

open Outcome (failure?)

namespace Sql

open Statement

variable {ν : Type} [Nominal ν] {d : Dialect}

/-- Membership can be written whatever the items are. -/
theorem failure?_member (c : Sql) (items : List Value)
    : failure? (member d c (.list items)) = none := by
  unfold member
  split <;> rfl

/-- Conditions behind a restriction are written, or not, whatever its items are. -/
theorem failure?_restricted (c : ColumnName ν) (source : Source)
    (behind : List (Condition (ColumnName ν))) (items others : List Value)
    : failure? ((⟨c, .known .among, .list items, source⟩ :: behind).mapM (condition d))
      = failure? ((⟨c, .known .among, .list others, source⟩ :: behind).mapM (condition d)) := by
  simp only [List.mapM_cons]
  refine Outcome.failure?_bind ?_ fun _ _ => ?_
  · refine Outcome.failure?_bind_same fun name => ?_
    exact (failure?_member name items).trans (failure?_member name others).symm
  · exact Outcome.failure?_bind_same fun _ => rfl

/-- The clauses of statements that differ in their conditions are written alike if those are. -/
theorem failure?_clauses {s : Statement ν} (strategy target : String)
    {conditions : List (Condition (ColumnName ν))}
    (alike
      : failure? (conditions.mapM (condition d)) = failure? (s.conditions.mapM (condition d)))
    : failure? (clauses d { s with strategy, target, conditions }) = failure? (clauses d s) := by
  refine Outcome.failure?_bind_same fun select => ?_
  refine Outcome.failure?_bind_same fun table => ?_
  refine Outcome.failure?_bind_same fun joins => ?_
  refine Outcome.failure?_bind alike fun _ _ => ?_
  refine Outcome.failure?_bind_same fun groups => ?_
  refine Outcome.failure?_bind_same fun having => ?_
  by_cases counts : s.mode = .count
  · simp only [if_pos counts]
    exact Outcome.failure?_bind_same fun order => Outcome.failure?_bind_same fun paging => rfl
  · simp only [if_neg counts]
    exact Outcome.failure?_bind_same fun order => Outcome.failure?_bind_same fun paging => rfl

end Sql

/-- Statements that differ in their conditions have SQL alike if those can be written alike. -/
theorem Compiled.failure?_generate {d : Dialect} {s : Statement String} (strategy target : String)
    {conditions : List (Condition (Statement.ColumnName String))}
    (alike
      : failure? (conditions.mapM (Sql.condition d))
        = failure? (s.conditions.mapM (Sql.condition d)))
    : failure? (generate d { s with strategy, target, conditions }).result
      = failure? (generate d s).result := by
  simp only [generate, Traced.result_bind, Traced.result_ofExcept]
  refine Outcome.failure?_bind (Outcome.failure?_bind ?_ fun _ _ => rfl) fun _ _ => rfl
  simp only [Sql.ofStatement, Outcome.failure?_map]
  exact Sql.failure?_clauses strategy target alike

end Polystore
