import Polystore.Proofs.Service.Execution
import Polystore.Proofs.Sql.Reasons

/-! Writing the statement of a plan. A valid query that is planned has the statement that its plan
describes, which is written unless its engine has no dialect or it lacks something in that dialect.
-/

namespace Polystore

open Outcome

/-- A statement has SQL exactly where it has its clauses. -/
theorem Compiled.exists_ofStatement_iff {d : Dialect} {s : Statement String}
    : (∃ compiled, ofStatement d s = .ok compiled) ↔ ∃ lines, Sql.clauses d s = .ok lines := by
  simp only [ofStatement, Sql.ofStatement]
  cases Sql.clauses d s with
  | error failure =>
      constructor <;> rintro ⟨_, h⟩ <;> cases h
  | ok lines => exact iff_of_true ⟨_, rfl⟩ ⟨lines, rfl⟩

theorem Compiled.result_generate (d : Dialect) (s : Statement String)
    : (generate d s).result = ofStatement d s := by
  simp [generate]

namespace Service

variable {s : Service} {q : Query} {context : Context} {granted : ScopedQuery} {p : Plan}

/-- What is written for a plan that needs a statement is the one that the plan describes. -/
theorem written_eq (h : Statement.Resolvable s.catalog q context p) {engine : String}
    (needed : p.engine = some engine)
    : s.written p
      = (s.compile (Statement.named s.catalog p engine)).result >>= fun compiled =>
          .ok (some (Statement.named s.catalog p engine, compiled)) := by
  rw [written, Plan.needsSql, needed, Option.isSome_some, if_pos rfl, h.resolve_eq needed,
    Outcome.ok_bind]
  rfl

/-- A statement is compiled exactly where its engine has a dialect that it is written in. -/
theorem compile_eq_ok {statement : Statement String} {compiled : Compiled}
    : (s.compile statement).result = .ok compiled
      ↔ ∃ d,
          s.dialects.find (.text statement.engine) = .ok d
          ∧ Compiled.ofStatement d statement = .ok compiled := by
  unfold compile
  cases s.dialects.find (.text statement.engine) with
  | error failure => simp
  | ok d => simp [Compiled.result_generate]

/-- Why a statement is not written: its engine has no dialect, or it lacks something there. -/
def NotWritten (dialects : Dialects) (statement : Statement String) (failure : Failure) : Prop :=
  dialects.find (.text statement.engine) = .error failure
  ∨ ∃ d,
      dialects.find (.text statement.engine) = .ok d ∧ Statement.ReasonFor d statement failure

/-- A statement of known words is written, or not for one of these reasons. -/
theorem failsOnly_compile {statement : Statement String} (spoken : statement.Spoken)
    : FailsOnly (NotWritten s.dialects statement) (s.compile statement).result := by
  unfold compile
  split
  next d found =>
    have clauses : FailsOnly (NotWritten s.dialects statement) (Sql.clauses d statement) :=
      (Sql.failsOnly_clauses spoken).imp fun failure reason => .inr ⟨d, found, reason⟩
    simp only [Compiled.generate, Traced.result_bind, Traced.result_ofExcept]
    exact FailsOnly.bind ((clauses.map _).bind fun _ _ => failsOnly_ok _) fun _ _ => failsOnly_ok _
  next failure unknown => exact failsOnly_error (.inl unknown)

/-- What a plan of a valid query needs is written, or not for one of these reasons. -/
theorem failsOnly_written (h : Statement.Resolvable s.catalog q context p)
    (valid : Validation.issues s.catalog q = []) {engine : String} (needed : p.engine = some engine)
    : FailsOnly (NotWritten s.dialects (Statement.named s.catalog p engine)) (s.written p) := by
  rw [written_eq h needed]
  exact (failsOnly_compile (h.spoken_named valid needed)).bind fun _ _ => failsOnly_ok _

/-- Planning a query that is valid and granted comes to its plan and what is written for it. -/
theorem result_plan (valid : Validation.issues s.catalog q = [])
    (allowed : (Access.apply s.catalog q context).result = .ok granted) (past : List Happening)
    : (s.plan q context .never past).result
      = (Planning.plan s.catalog s.facilities granted context
          (q.freshness.getD s.standardFreshness)).result >>= fun p =>
            (fun statement => ⟨⟨p, statement⟩, none⟩) <$> s.written p := by
  simp only [Service.plan, Course.result_bind, result_prepare,
    result_stages past valid allowed, Course.result_pure]
  cases (Planning.plan s.catalog s.facilities granted context
      (q.freshness.getD s.standardFreshness)).result with
  | error failure => rfl
  | ok p =>
      rw [Outcome.ok_bind, Outcome.ok_bind]
      cases s.written p <;> rfl

end Service

namespace Sample

/-- A service over the sample catalog that has no cache. -/
def plainService : Service := ⟨catalog, facilities, .hours, .standard, none⟩

end Sample

end Polystore
