import Polystore.Proofs.Trace.Interruption
import Polystore.Service.Query

/-! The stages of answering a query. The work within a stage runs no statement and does not look at
the flag; the flag is looked at between stages, in front of each one that is reached.
-/

namespace Polystore

open Traced (Quiet)

-----------------------------------------------------------------------------------------
-- Access control
-----------------------------------------------------------------------------------------

namespace Access

variable {c : Catalog} {role : String} {context : Context}

/-- Finding rules stays within a stage, by induction on the names. -/
theorem quiet_rules (names : List String) : (rules c role names).Quiet := by
  have denied (name : String) : (rules.denied role name).Quiet :=
    (Traced.quiet_note ..).bind fun _ => Traced.quiet_refuse _
  induction names with
  | nil => exact Traced.quiet_pure _
  | cons name rest ih =>
      unfold rules
      split
      · exact denied name
      · split
        · exact denied name
        · exact ih.bind fun _ => Traced.quiet_pure _

/-- Checking columns stays within a stage, by induction on the references. -/
theorem quiet_checkColumns {allowed : Entries String (List String)} (refs : List ColumnRef)
    : (checkColumns role allowed refs).Quiet := by
  induction refs with
  | nil => exact Traced.quiet_pure _
  | cons ref rest ih =>
      unfold checkColumns
      split
      · exact Traced.quiet_fail _
      · split
        · exact ih
        · exact (Traced.quiet_note ..).bind fun _ => Traced.quiet_refuse _

/-- Making scopes stays within a stage, by induction on the rules. -/
theorem quiet_scopes (rules : Entries String (Table × TableRule))
    : (scopes context rules).Quiet := by
  induction rules with
  | nil => exact Traced.quiet_pure _
  | cons entry rest ih =>
      unfold scopes
      split
      · exact Traced.quiet_refuse _
      · refine (Traced.quiet_forM fun _ => Traced.quiet_note ..).bind fun _ => ?_
        exact ih.bind fun _ => Traced.quiet_pure _

theorem quiet_apply (q : Query) : (apply c q context).Quiet := by
  refine (quiet_rules _).bind fun _ => ?_
  refine (quiet_checkColumns _).bind fun _ => ?_
  refine (Traced.quiet_note ..).bind fun _ => ?_
  exact (quiet_scopes _).bind fun _ => Traced.quiet_pure _

end Access

-----------------------------------------------------------------------------------------
-- Planning
-----------------------------------------------------------------------------------------

namespace Planning

variable {s : Setting}

theorem quiet_skipCache (reason : String) : (skipCache reason).Quiet :=
  (Traced.quiet_note ..).bind fun _ => Traced.quiet_pure _

theorem quiet_readCache (l : Lookup) (ids : List Value) (keys : List (Value × String))
    : (readCache s l ids keys).Quiet := by
  have recorded : (Traced.record (.readCache (keys.map Prod.snd))).Quiet := rfl
  refine recorded.bind fun _ => ?_
  split
  · refine (Traced.quiet_log ..).bind fun _ => ?_
    exact (Traced.quiet_note ..).bind fun _ => Traced.quiet_pure _
  · dsimp only
    split
    · exact Traced.quiet_fail _
    · exact (Traced.quiet_note ..).bind fun _ => Traced.quiet_pure _

theorem quiet_throughCache (s : Setting) : (throughCache s).Quiet := by
  unfold throughCache
  split
  · exact quiet_skipCache _
  · dsimp only
    split
    · exact quiet_readCache ..
    · exact quiet_skipCache _
    · exact Traced.quiet_fail _

theorem quiet_direct (s : Setting) : (direct s).Quiet := by
  unfold direct
  split
  · exact Traced.quiet_pure _
  · exact (Traced.quiet_note ..).bind fun _ => Traced.quiet_pure _

theorem quiet_materialized (s : Setting) : (materialized s).Quiet := by
  unfold materialized
  split
  all_goals exact (Traced.quiet_note ..).bind fun _ => Traced.quiet_pure _

theorem quiet_federated (s : Setting) : (federated s).Quiet := by
  unfold federated
  split
  · exact Traced.quiet_pure _
  · exact (Traced.quiet_note ..).bind fun _ => Traced.quiet_pure _

/-- Trying routes stays within a stage, by induction on the attempts. -/
theorem quiet_firstRoute {attempts : List (Traced (Option Route))}
    (quiet : ∀ attempt ∈ attempts, attempt.Quiet)
    : (firstRoute attempts).Quiet := by
  induction attempts with
  | nil => exact Traced.quiet_pure _
  | cons attempt rest ih =>
      obtain ⟨first, others⟩ := List.forall_mem_cons.mp quiet
      refine first.bind fun found => ?_
      cases found with
      | some route => exact Traced.quiet_pure _
      | none => exact ih others

theorem quiet_chooseRoute (s : Setting) : (chooseRoute s).Quiet := by
  have attempts : (firstRoute [throughCache s, direct s, materialized s, federated s]).Quiet := by
    refine quiet_firstRoute ?_
    simp only [List.forall_mem_cons, quiet_throughCache, quiet_direct, quiet_materialized,
      quiet_federated, List.not_mem_nil, true_and, false_implies, implies_true]
  refine attempts.bind fun found => ?_
  cases found with
  | some route => exact Traced.quiet_pure _
  | none =>
      refine (Traced.quiet_note ..).bind fun _ => ?_
      exact (Traced.quiet_log ..).bind fun _ => Traced.quiet_refuse _

theorem quiet_plan (c : Catalog) (facilities : Facilities) (granted : ScopedQuery)
    (context : Context) (tolerance : Freshness)
    : (plan c facilities granted context tolerance).Quiet := by
  unfold plan
  split
  · exact Traced.quiet_fail _
  · refine (Traced.quiet_note ..).bind fun _ => ?_
    refine (quiet_chooseRoute _).bind fun _ => ?_
    split
    · exact Traced.quiet_fail _
    · refine (Traced.quiet_note ..).bind fun _ => ?_
      exact (Traced.quiet_log ..).bind fun _ => Traced.quiet_pure _

end Planning

-----------------------------------------------------------------------------------------
-- Validation, statements and SQL
-----------------------------------------------------------------------------------------

theorem Statement.quiet_resolve (p : Plan) : (Statement.resolve p).Quiet := by
  refine (Traced.quiet_ofExcept _).bind fun _ => ?_
  exact (Traced.quiet_note ..).bind fun _ => Traced.quiet_pure _

namespace Service

variable {s : Service} {q : Query} {context : Context} {cancellation : Cancellation}

theorem quiet_validate (c : Catalog) (q : Query) (role : String) : (validate c q role).Quiet := by
  unfold validate
  split
  · exact Traced.quiet_note ..
  · exact (Traced.quiet_note ..).bind fun _ => Traced.quiet_refuse _

theorem quiet_compile (s : Service) (statement : Statement String)
    : (s.compile statement).Quiet := by
  unfold compile
  split
  · refine (Traced.quiet_ofExcept _).bind fun _ => ?_
    exact (Traced.quiet_note ..).bind fun _ => Traced.quiet_pure _
  · exact Traced.quiet_fail _

-----------------------------------------------------------------------------------------
-- The stages together
-----------------------------------------------------------------------------------------

open Course (Staged)

/-- The stages up to a statement, in order. -/
def preparation : List Stage := [.validation, .rowRules, .planning, .nameResolution, .generation]

/-- The stages come one after the other, each behind a look at the flag; the last two are left out
where a plan needs no SQL.
-/
theorem staged_stages
    : Staged cancellation preparation (s.stages q context .never)
        (s.stages q context cancellation) := by
  refine (Staged.checkpoint .validation).bind fun _ => ?_
  refine (Staged.ofTraced ((quiet_validate ..).within _)).bind fun _ => ?_
  refine (Staged.checkpoint .rowRules).bind fun _ => ?_
  refine (Staged.ofTraced ((Access.quiet_apply _).within _)).bind fun _ => ?_
  refine (Staged.checkpoint .planning).bind fun _ => ?_
  refine (Staged.ofTraced ((Planning.quiet_plan ..).within _)).bind fun p => ?_
  cases p.needsSql with
  | false => exact .pure _ _
  | true =>
      refine (Staged.checkpoint .nameResolution).bind fun _ => ?_
      refine (Staged.ofTraced ((Statement.quiet_resolve _).within _)).bind fun _ => ?_
      refine (Staged.checkpoint .generation).bind fun _ => ?_
      exact (Staged.ofTraced ((quiet_compile ..).within _)).bind fun _ => .pure [] _

theorem staged_prepare
    : Staged cancellation preparation (s.prepare q context .never)
        (s.prepare q context cancellation) := by
  rw [← List.append_nil preparation]
  refine staged_stages.bind fun prepared => ?_
  cases prepared.statement with
  | none => exact .pure [] _
  | some both => exact (Staged.ofTraced (Traced.quiet_log ..)).bind fun _ => .pure [] _

end Service

end Polystore
