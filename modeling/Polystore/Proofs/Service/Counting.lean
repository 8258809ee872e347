import Polystore.Proofs.Planning.Assignments
import Polystore.Proofs.Planning.CacheReads
import Polystore.Proofs.Service.Rendering
import Polystore.Proofs.Sql.Counting

/-! Counting the rows of a query. A query that asks for the number of rows instead of the rows
passes the same checks and is planned the same way, unless the cache answers for the rows, so that
it counts what the statement for the rows is about.
-/

namespace Polystore

-----------------------------------------------------------------------------------------
-- Queries that count
-----------------------------------------------------------------------------------------

/-- The query for the number of rows. -/
def Query.counting (q : Query) : Query := { q with mode := .count }

def ScopedQuery.counting (s : ScopedQuery) : ScopedQuery := { s with query := s.query.counting }

def Plan.counting (p : Plan) : Plan := { p with granted := p.granted.counting }

section Stages

variable {c : Catalog} {q : Query} {context : Context} {granted : ScopedQuery} {p : Plan}
  {facilities : Facilities} {tolerance : Freshness}

namespace Validation

/-- Joins are checked whatever the mode, by induction on the joins. -/
theorem joinIssuesFrom_counting (joined : List String) (i : Nat) (joins : List Join)
    : joinIssuesFrom c q.counting joined i joins = joinIssuesFrom c q joined i joins := by
  induction joins generalizing joined i with
  | nil => rfl
  | cons j rest ih =>
      simp only [joinIssuesFrom, ih]
      rfl

/-- Aggregates are checked whatever the mode, by induction on them. -/
theorem aggregateIssuesFrom_counting (labels : List String) (i : Nat)
    (aggregations : List Aggregation)
    : aggregateIssuesFrom c q.counting labels i aggregations
      = aggregateIssuesFrom c q labels i aggregations := by
  induction aggregations generalizing labels i with
  | nil => rfl
  | cons a rest ih =>
      simp only [aggregateIssuesFrom, ih]
      rfl

/-- A query that does not aggregate has the same issues whether it counts or not. -/
theorem issues_counting (plain : q.isAggregate = false)
    : issues c q.counting = issues c q := by
  have mode (mode : Mode) : ¬ (mode = .count ∧ q.isAggregate = true) := by simp [plain]
  have aggregation : aggregationIssues c q.counting = aggregationIssues c q := by
    unfold aggregationIssues
    rw [if_neg (mode q.mode), show q.counting.aggregations = q.aggregations from rfl,
      aggregateIssuesFrom_counting]
    exact congrArg (· ++ _ ++ _ ++ _ ++ _) (if_neg (mode .count))
  have joins : joinIssues c q.counting = joinIssues c q := joinIssuesFrom_counting ..
  unfold issues
  rw [aggregation, joins]
  rfl

end Validation

namespace Access

/-- What a query is granted it is granted for counting. -/
theorem apply_counting (allowed : (apply c q context).result = .ok granted)
    : (apply c q.counting context).result = .ok granted.counting := by
  simp only [apply, Traced.result_bind, Traced.result_note, Traced.result_pure, Outcome.bind_eq_ok,
    Outcome.ok_bind] at allowed ⊢
  obtain ⟨rules, ruled, _, checked, scopes, found, same⟩ := allowed
  cases same
  exact ⟨rules, ruled, (), checked, scopes, found, rfl⟩

end Access

-----------------------------------------------------------------------------------------
-- Plans that count
-----------------------------------------------------------------------------------------

namespace Planning

/-- The cache answers no query that counts. -/
theorem throughCache_counting (s : Setting)
    : (throughCache { s with granted := s.granted.counting }).result = .ok none := by
  unfold throughCache
  split
  next reason => simp [skipCache]
  next l found =>
    have rows := (answerable_of_lookup found).plain.2
    cases rows

/-- A route that is not through the cache is taken where the cache does not answer. -/
theorem throughCache_eq_none_of_chosen {s : Setting} {route : Route}
    (chosen : (chooseRoute s).result = .ok route) (past : route.hit? = none)
    : (throughCache s).result = .ok none := by
  rw [chooseRoute_eq_ok, firstRoute_cons_eq_ok] at chosen
  rcases chosen with ⟨_, taken, same⟩ | ⟨none, _⟩
  · cases same
    obtain ⟨_, _, _, _, rfl⟩ := hit_of_throughCache taken
    cases past
  · exact none

/-- A route past the cache is chosen for counting too. -/
theorem chooseRoute_counting {s : Setting} {route : Route}
    (chosen : (chooseRoute s).result = .ok route) (past : route.hit? = none)
    : (chooseRoute { s with granted := s.granted.counting }).result = .ok route := by
  have passed := throughCache_eq_none_of_chosen chosen past
  rw [chooseRoute_eq_ok, firstRoute_cons_eq_ok] at chosen ⊢
  rcases chosen with ⟨_, taken, _⟩ | ⟨_, later⟩
  · cases taken.symm.trans passed
  · exact .inr ⟨throughCache_counting s, later⟩

/-- A plan past the cache is made for counting too, with the same route and assignments. -/
theorem plan_counting (rights : Access.Granted c q context granted)
    (counts : Access.Granted c q.counting context granted.counting)
    (planned : (plan c facilities granted context tolerance).result = .ok p)
    (past : p.route.hit? = none)
    : (plan c facilities granted.counting context tolerance).result = .ok p.counting := by
  obtain ⟨tables, route, known, chosen, made⟩ := plan_eq_ok.mp planned
  obtain ⟨assigned, engine, hassigned, hengine, rfl⟩ := planFor_eq_ok.mp made
  have touched : tables = c.touched q := Except.ok.inj (known.symm.trans rights.tablesOf_tableNames)
  have same := chooseRoute_counting chosen past
  refine plan_eq_ok.mpr ⟨tables, route, ?_, same, ?_⟩
  · rw [touched]
    exact counts.tablesOf_tableNames
  · refine planFor_eq_ok.mpr ⟨assigned, engine, hassigned, hengine, ?_⟩
    cases route <;> rfl

end Planning

-----------------------------------------------------------------------------------------
-- Answers that count
-----------------------------------------------------------------------------------------

namespace Service

variable {s : Service} {past : List Happening}

/-- The statement of a query that does not aggregate groups nothing. -/
theorem ungrouped_named (h : Statement.Resolvable c q context p) (plain : q.isAggregate = false)
    (engine : String)
    : (Statement.named c p engine).Ungrouped := by
  simp only [Query.isAggregate, Bool.or_eq_false_iff, Bool.not_eq_false', List.isEmpty_iff] at plain
  constructor
  case groupBy => simp [Statement.named, h.query_eq, plain.2]
  case having =>
    have none : q.having = [] := by
      rw [List.eq_nil_iff_forall_not_mem]
      intro predicate member
      have label := h.accepted.having predicate member
      simp [Query.aggregateLabels, plain.1] at label
    simp [Statement.named, h.query_eq, none]

/-- What is written for a plan that needs a statement is written for counting too. -/
theorem written_counting (h : Statement.Resolvable s.catalog q context p)
    (counts : Statement.Resolvable s.catalog q.counting context p.counting)
    (plain : q.isAggregate = false) {engine : String} (needed : p.engine = some engine)
    {both : Option (Statement String × Compiled)} (written : s.written p = .ok both)
    : ∃ d statement compiled count,
        both = some (statement, compiled)
        ∧ s.dialects.find (.text statement.engine) = .ok d
        ∧ s.written p.counting = .ok (some (statement.counting, count))
        ∧ Sql.Counts d statement compiled count := by
  rw [written_eq h needed] at written
  obtain ⟨compiled, made, same⟩ := Outcome.bind_eq_ok.mp written
  obtain ⟨d, known, rows⟩ := compile_eq_ok.mp made
  obtain ⟨count, number, related⟩ := Sql.exists_count (ungrouped_named h plain engine) rows
  have made'
      : (s.compile (Statement.named s.catalog p.counting engine)).result = .ok count :=
    compile_eq_ok.mpr ⟨d, known, number⟩
  refine ⟨d, _, compiled, count, (Except.ok.inj same).symm, known, ?_, related⟩
  rw [written_eq counts needed, made']
  rfl

/-- The number of the rows of a query that is planned past the cache is planned in the same way,
and what is written for it counts these rows.
-/
theorem counts_of_plan {answer : Answer} (plain : q.isAggregate = false)
    (planned : (s.plan q context .never past).result = .ok answer)
    (uncached : s.facilities.cache = none ∨ answer.prepared.plan.route.hit? = none)
    : ∃ counted d statement compiled count,
        Validation.issues s.catalog q.counting = []
        ∧ (∀ other, (s.plan q.counting context .never other).result = .ok counted)
        ∧ counted.prepared.plan.route = answer.prepared.plan.route
        ∧ s.dialects.find (.text statement.engine) = .ok d
        ∧ answer.prepared.statement = some (statement, compiled)
        ∧ counted.prepared.statement = some (statement.counting, count)
        ∧ Sql.Counts d statement compiled count := by
  obtain ⟨prepares, _⟩ := (plan_eq_ok past).mp planned
  have alone : answer.prepared.plan.route.hit? = none :=
    uncached.elim (fun uncached => Planning.hit?_of_uncached uncached prepares.planned) id
  have valid : Validation.issues s.catalog q.counting = [] :=
    (Validation.issues_counting plain).trans prepares.valid
  have granted := Access.apply_counting prepares.granted
  have counting := Planning.plan_counting (Access.granted_of_apply prepares.granted)
    (Access.granted_of_apply granted) prepares.planned alone
  obtain ⟨engine, needed, _⟩ := Planning.exists_engine_of_past alone prepares.planned
  obtain ⟨d, statement, compiled, count, rows, known, written, related⟩ := written_counting
    (Statement.resolvable_of_plan prepares.valid prepares.granted prepares.planned)
    (Statement.resolvable_of_plan valid granted counting) plain needed prepares.written
  have counted
      : s.Prepares q.counting context
          ⟨answer.prepared.plan.counting, some (statement.counting, count)⟩ :=
    ⟨valid, granted, counting, written⟩
  exact ⟨⟨_, none⟩, d, statement, compiled, count, valid,
    fun other => (plan_eq_ok other).mpr ⟨counted, rfl⟩, rfl, known, rows, rfl, related⟩

end Service

end Stages

namespace Sample

/-- The orders that a page is taken of are counted without the order and the page. -/
theorem orders_counted
    : ∃ answer counted d statement compiled count,
        ordersQuery.isAggregate = false
        ∧ (plainService.plan ordersQuery context .never []).result = .ok answer
        ∧ plainService.facilities.cache = none
        ∧ (plainService.plan ordersQuery.counting context .never []).result = .ok counted
        ∧ counted.prepared.plan.route = answer.prepared.plan.route
        ∧ answer.prepared.statement = some (statement, compiled)
        ∧ counted.prepared.statement = some (statement.counting, count)
        ∧ Sql.Counts d statement compiled count := by
  have taken
      : (plainService.plan ordersQuery context .never []).result.map (fun _ => ()) = .ok () := by
    cbv
  obtain ⟨answer, planned, _⟩ := Outcome.map_eq_ok.mp taken
  have uncached : plainService.facilities.cache = none := rfl
  obtain ⟨counted, d, statement, compiled, count, _, counts, route, _, rows, number, related⟩ :=
    Service.counts_of_plan (by rfl) planned (.inl uncached)
  exact ⟨answer, counted, d, statement, compiled, count, by rfl, planned, uncached, counts [],
    route, rows, number, related⟩

end Sample

end Polystore
