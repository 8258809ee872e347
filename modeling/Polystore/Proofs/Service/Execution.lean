import Polystore.Proofs.Planning.Routing
import Polystore.Proofs.Trace.Outcomes
import Polystore.Service.Query

/-! What it takes to answer a query that nobody cancels. A query is prepared when each stage
succeeds on what the stages before it came to, and executed when its rows are found as well.
-/

namespace Polystore.Service

variable {s : Service} {q : Query} {context : Context} (past : List Happening)

/-- What is written for a plan: its statement with the SQL, if it needs any. -/
def written (s : Service) (p : Plan) : Except Failure (Option (Statement String × Compiled)) :=
  if p.needsSql then do
    let statement ← (Statement.resolve p).result
    let compiled ← (s.compile statement).result
    return some (statement, compiled)
  else .ok none

/-- A query without issues, granted and planned, with what is written for the plan. -/
structure Prepares (s : Service) (q : Query) (context : Context) (prepared : Prepared)
    : Prop where
  valid : Validation.issues s.catalog q = []
  granted : (Access.apply s.catalog q context).result = .ok prepared.plan.granted
  planned
    : (Planning.plan s.catalog s.facilities prepared.plan.granted context
        (q.freshness.getD s.standardFreshness)).result
      = .ok prepared.plan
  written : s.written prepared.plan = .ok prepared.statement

theorem validate_eq_ok {c : Catalog} {role : String}
    : (validate c q role).result = .ok () ↔ Validation.issues c q = [] := by
  unfold validate
  split
  next none => simp [none]
  next issue rest some => simp [some]

/-- The last stages come to what is written for the plan. -/
theorem result_writing (surroundings : Row) (p : Plan)
    : ((if !p.needsSql then pure ⟨p, none⟩
        else do
          .checkpoint .never .nameResolution
          let statement ← .ofTraced ((Statement.resolve p).within surroundings)
          .checkpoint .never .generation
          let compiled ← .ofTraced ((s.compile statement).within surroundings)
          pure ⟨p, some (statement, compiled)⟩ : Course Prepared) past).result
      = Prepared.mk p <$> s.written p := by
  unfold written
  cases p.needsSql with
  | false => rfl
  | true =>
      simp only [Bool.not_true, Bool.false_eq_true, if_false, if_true, Course.result_bind,
        Course.result_checkpoint_never, Course.result_ofTraced, Traced.result_within,
        Outcome.ok_bind, Course.result_pure]
      cases (Statement.resolve p).result with
      | error failure => rfl
      | ok statement => cases compiled : (s.compile statement).result <;> simp [compiled]

/-- The stages succeed exactly when each of them does. -/
theorem stages_eq_ok {prepared : Prepared}
    : (s.stages q context .never past).result = .ok prepared ↔ s.Prepares q context prepared := by
  simp only [stages, Course.result_bind, Course.result_checkpoint_never,
    Course.result_ofTraced, Traced.result_within, Outcome.ok_bind, Outcome.bind_eq_ok]
  constructor
  · rintro ⟨_, valid, granted, hgranted, p, planned, h⟩
    obtain ⟨statement, written, rfl⟩ := Outcome.map_eq_ok.mp ((result_writing _ _ p).symm.trans h)
    have same := (Planning.planned_of_plan planned).granted
    subst same
    exact ⟨validate_eq_ok.mp valid, hgranted, planned, written⟩
  · intro h
    refine ⟨(), validate_eq_ok.mpr h.valid, _, h.granted, _, h.planned, ?_⟩
    refine (result_writing _ _ _).trans ?_
    rw [h.written]
    rfl

/-- The stages of a query that is valid and granted come to its plan and what is written for it. -/
theorem result_stages {granted : ScopedQuery} (valid : Validation.issues s.catalog q = [])
    (allowed : (Access.apply s.catalog q context).result = .ok granted)
    : (s.stages q context .never past).result
      = (Planning.plan s.catalog s.facilities granted context
          (q.freshness.getD s.standardFreshness)).result >>= fun p =>
            Prepared.mk p <$> s.written p := by
  have validated : (validate s.catalog q context.role).result = .ok () := validate_eq_ok.mpr valid
  simp only [stages, Course.result_bind, Course.result_checkpoint_never,
    Course.result_ofTraced, Traced.result_within, Outcome.ok_bind, validated, allowed]
  cases (Planning.plan s.catalog s.facilities granted context
      (q.freshness.getD s.standardFreshness)).result with
  | error failure => rfl
  | ok p => exact result_writing _ _ p

/-- Preparing a query comes to what its stages come to. -/
theorem result_prepare
    : (s.prepare q context .never past).result = (s.stages q context .never past).result := by
  simp only [prepare, Course.result_bind]
  cases (s.stages q context .never past).result with
  | error failure => rfl
  | ok prepared =>
      rw [Outcome.ok_bind]
      cases written : prepared.statement with
      | none => rfl
      | some both =>
          simp only [Course.result_bind, Course.result_ofTraced, Traced.result_log,
            Outcome.ok_bind]
          rfl

/-- A query is prepared exactly when its stages succeed. -/
theorem prepare_eq_ok {prepared : Prepared}
    : (s.prepare q context .never past).result = .ok prepared ↔ s.Prepares q context prepared := by
  rw [result_prepare, stages_eq_ok]

/-- A query is planned exactly when it is prepared. -/
theorem plan_eq_ok {answer : Answer}
    : (s.plan q context .never past).result = .ok answer
      ↔ s.Prepares q context answer.prepared ∧ answer.rows = none := by
  simp only [plan, Course.result_bind, Outcome.bind_eq_ok, prepare_eq_ok, Course.result_pure,
    Except.ok.injEq]
  constructor
  · rintro ⟨prepared, prepares, rfl⟩
    exact ⟨prepares, rfl⟩
  · rintro ⟨prepares, same⟩
    refine ⟨answer.prepared, prepares, ?_⟩
    rw [← same]

/-- A query is executed exactly when it is prepared and its rows are found. -/
theorem execute_eq_ok {answer : Answer}
    : (s.execute q context .never past).result = .ok answer
      ↔ s.Prepares q context answer.prepared
        ∧ ∃ rows, (s.rows answer.prepared).result = .ok rows ∧ answer.rows = some rows := by
  simp only [execute, Course.result_bind, Outcome.bind_eq_ok, prepare_eq_ok,
    Course.result_checkpoint_never, Course.result_ofTraced, Outcome.ok_bind, Course.result_pure,
    Except.ok.injEq]
  constructor
  · rintro ⟨prepared, prepares, rows, found, rfl⟩
    exact ⟨prepares, rows, found, rfl⟩
  · rintro ⟨prepares, rows, found, same⟩
    refine ⟨answer.prepared, prepares, rows, found, ?_⟩
    rw [← same]

-----------------------------------------------------------------------------------------
-- Queries that may be cancelled
-----------------------------------------------------------------------------------------

variable {past} {cancellation : Cancellation}

/-- The last stages succeed only with what is written for the plan. -/
theorem written_of_writing {surroundings : Row} {p : Plan} {prepared : Prepared}
    (h
      : ((if !p.needsSql then pure ⟨p, none⟩
          else do
            .checkpoint cancellation .nameResolution
            let statement ← .ofTraced ((Statement.resolve p).within surroundings)
            .checkpoint cancellation .generation
            let compiled ← .ofTraced ((s.compile statement).within surroundings)
            pure ⟨p, some (statement, compiled)⟩ : Course Prepared) past).result
        = .ok prepared)
    : prepared.plan = p ∧ s.written p = .ok prepared.statement := by
  unfold written
  cases needed : p.needsSql with
  | false =>
      rw [needed] at h
      cases h
      exact ⟨rfl, rfl⟩
  | true =>
      simp only [needed, Bool.not_true, Bool.false_eq_true, if_false, Course.result_bind,
        Course.result_ofTraced, Traced.result_within, Outcome.bind_eq_ok] at h
      obtain ⟨_, _, statement, resolved, _, _, compiled, made, h⟩ := h
      cases h
      refine ⟨rfl, ?_⟩
      rw [resolved, Outcome.ok_bind, made]
      rfl

/-- Stages that succeed although they could be cancelled succeed without that. -/
theorem prepares_of_stages {prepared : Prepared}
    (h : (s.stages q context cancellation past).result = .ok prepared)
    : s.Prepares q context prepared := by
  simp only [stages, Course.result_bind, Course.result_ofTraced, Traced.result_within,
    Outcome.bind_eq_ok] at h
  obtain ⟨_, _, _, valid, _, _, granted, hgranted, _, _, p, planned, h⟩ := h
  obtain ⟨rfl, written⟩ := written_of_writing h
  have same := (Planning.planned_of_plan planned).granted
  subst same
  exact ⟨validate_eq_ok.mp valid, hgranted, planned, written⟩

/-- A query that is prepared although it could be cancelled is prepared without that. -/
theorem prepares_of_prepare {prepared : Prepared}
    (h : (s.prepare q context cancellation past).result = .ok prepared)
    : s.Prepares q context prepared := by
  simp only [prepare, Course.result_bind, Outcome.bind_eq_ok] at h
  obtain ⟨found, stages, logged⟩ := h
  have same : found = prepared := by
    cases statement : found.statement with
    | none =>
        rw [statement] at logged
        cases logged
        rfl
    | some both =>
        simp only [statement, Course.result_bind, Course.result_ofTraced, Traced.result_log,
          Outcome.ok_bind] at logged
        cases logged
        rfl
  exact same ▸ prepares_of_stages stages

/-- A query that is executed although it could be cancelled is prepared, and its rows are found. -/
theorem prepares_of_execute {answer : Answer}
    (h : (s.execute q context cancellation past).result = .ok answer)
    : s.Prepares q context answer.prepared
      ∧ ∃ rows, (s.rows answer.prepared).result = .ok rows ∧ answer.rows = some rows := by
  simp only [execute, Course.result_bind, Course.result_ofTraced, Outcome.bind_eq_ok] at h
  obtain ⟨prepared, made, _, _, rows, ran, h⟩ := h
  cases h
  exact ⟨prepares_of_prepare made, rows, ran, rfl⟩

end Polystore.Service
