import Polystore.Proofs.Planning.CacheReads
import Polystore.Proofs.Planning.Dialects
import Polystore.Proofs.Service.CachedLookups
import Polystore.Proofs.Service.Stages

/-! The statement that an execution runs. There is at most one, the one that the answer reports, and
none for a complete hit. Rows are returned only behind a complete hit or when the statement has been
answered; when it fails, the rows that the cache gave are not returned on their own.
-/

namespace Polystore

/-- The call that runs compiled SQL. -/
def Compiled.call (compiled : Compiled) : Call := ⟨compiled.sql, compiled.params, compiled.target⟩

/-- What an execution on a route fails with when its statement does: with the same outage, or, where
rows of the cache are discarded, with a refusal that names its cause.
-/
def Route.failureFor (route : Route) (table : String) (o : Outage) : Failure :=
  match route.hit? with
  | none => .fault (.outage o)
  | some hit => .refused (.fallbackFailed table hit.fallback o)

/-- Whether an answer reports a call: as its SQL, its parameters and the place where it ran. -/
def Answer.Reports (answer : Answer) (call : Call) : Prop :=
  answer.toMembers.lookup "sql" = some (.text call.sql)
  ∧ answer.toMembers.lookup "params" = some (.list call.params)
  ∧ answer.toMembers.lookup "target_database" = some (.text call.target)

/-- What comes of the rows that are fetched for a prepared query: these rows, or those of its hit
merged with them.
-/
def Prepared.complete (prepared : Prepared) (fetched : List Row) : Except Failure (List Row) :=
  match prepared.plan.route.hit? with
  | none => .ok fetched
  | some hit => do
      let key ← Service.keyColumn prepared.plan
      (Cache.merged hit.visibleRows fetched prepared.plan.granted.selection key).mapError
        .unwritable

namespace Service

variable {s : Service} {q : Query} {context : Context} {cancellation : Cancellation}
  {prepared : Prepared} {compiled : Compiled} {fail : Outage → Failure}
  {made : List Row → Except Failure (List Row)}

-----------------------------------------------------------------------------------------
-- Rows of a statement
-----------------------------------------------------------------------------------------

/-- How rows are fetched with compiled SQL: no executor can run it, or the one that runs it fails,
or its answer is made into rows.
-/
inductive Fetches (s : Service) (compiled : Compiled) (fail : Outage → Failure)
    (made : List Row → Except Failure (List Row)) (t : Traced (List Row)) : Prop where
  | unavailable (none : s.executor = none) (silent : t.outward = [])
      (refused : t.result = .error (.refused .noExecutor))
  | failed {executor : Executor} {o : Outage} (present : s.executor = some executor)
      (ran : t.outward = [.ran compiled.call]) (outage : executor compiled.call = .error o)
      (refused : t.result = .error (fail o))
  | answered {executor : Executor} {found : List Row} (present : s.executor = some executor)
      (ran : t.outward = [.ran compiled.call]) (answer : executor compiled.call = .ok found)
      (returned : t.result = made found)

/-- Running compiled SQL, and going on within a stage with a failure or with some rows. -/
theorem fetches_run {f : Except Outage (List Row) → Traced (List Row)}
    (quiet : ∀ answer, (f answer).Quiet) (failed : ∀ o, (f (.error o)).result = .error (fail o))
    (answered : ∀ found, (f (.ok found)).result = made found)
    : s.Fetches compiled fail made (s.run compiled >>= f) := by
  cases present : s.executor with
  | none =>
      have refused : s.run compiled = .refuse .noExecutor := by simp only [run, present]
      rw [refused]
      exact .unavailable present rfl rfl
  | some executor =>
      have ran : s.run compiled = ⟨[.ran compiled.call], .ok (executor compiled.call)⟩ := by
        simp only [run, present]
        rfl
      have outward : (s.run compiled >>= f).outward = [.ran compiled.call] := by
        rw [Traced.outward_bind_of_ok (by rw [ran]), quiet, ran]
        rfl
      have result : (s.run compiled >>= f).result = (f (executor compiled.call)).result := by
        rw [Traced.result_bind, ran, Outcome.ok_bind]
      cases answer : executor compiled.call with
      | error o => exact .failed present outward answer (by rw [result, answer, failed])
      | ok found => exact .answered present outward answer (by rw [result, answer, answered])

/-- Rows that are fetched are still fetched when some work behind them makes other rows of them. -/
theorem Fetches.bind {t : Traced (List Row)} (h : s.Fetches compiled fail made t)
    {f : List Row → Traced (List Row)} (quiet : ∀ rows, (f rows).Quiet)
    {more : List Row → Except Failure (List Row)} (goes : ∀ rows, (f rows).result = more rows)
    : s.Fetches compiled fail (fun found => made found >>= more) (t >>= f) := by
  have outward : (t >>= f).outward = t.outward := by
    cases result : t.result with
    | error failure => exact Traced.outward_bind_of_error result f
    | ok rows => rw [Traced.outward_bind_of_ok result, quiet, List.append_nil]
  cases h with
  | unavailable none silent refused =>
      refine .unavailable none (outward.trans silent) ?_
      rw [Traced.result_bind, refused]
      rfl
  | failed present ran outage refused =>
      refine .failed present (outward.trans ran) outage ?_
      rw [Traced.result_bind, refused]
      rfl
  | answered present ran answer returned =>
      refine .answered present (outward.trans ran) answer ?_
      rw [Traced.result_bind, returned, funext goes]

theorem fetches_runStatement (statement : Statement String)
    : s.Fetches compiled (fun o => .fault (.outage o))
        (fun found => .ok (found.map statement.restore)) (s.runStatement statement compiled) := by
  refine fetches_run (fun answer => ?_) (fun _ => rfl) fun found => rfl
  cases answer <;> rfl

theorem fetches_runFallback {hit : CacheHit} (statement : Statement String)
    : s.Fetches compiled (fun o => .refused (.fallbackFailed q.source hit.fallback o))
        (fun found => .ok (found.map statement.restore))
        (s.runFallback q hit statement compiled) := by
  refine fetches_run (fun answer => ?_) (fun _ => rfl) fun found => rfl
  cases answer <;> rfl

-----------------------------------------------------------------------------------------
-- Rows of prepared queries
-----------------------------------------------------------------------------------------

/-- A query that is prepared with a hit has a key column to merge rows by. -/
theorem Prepares.exists_keyColumn (h : s.Prepares q context prepared) {hit : CacheHit}
    (taken : prepared.plan.route.hit? = some hit)
    : ∃ key, keyColumn prepared.plan = .ok key := by
  obtain ⟨tables, _, through⟩ := Planning.throughCache_of_hit h.planned taken
  have asked := Planning.idList_ne_nil_of_throughCache through
  have accepted := Validation.accepted_of_issues h.valid
  obtain ⟨t, source⟩ := accepted.tables q.source (List.mem_cons_self ..)
  have ids : q.byIds.isSome := by
    cases given : q.byIds with
    | some ids => rfl
    | none =>
        have query : prepared.plan.granted.query = q := h.resolvable.granted.query
        exact absurd (by simp [Query.idList, query, given]) asked
  obtain ⟨key, single⟩ := accepted.singleKey t ids source
  exact ⟨key, keyColumn_eq h.resolvable source single⟩

/-- What is written for a plan runs at the place where its route ends. -/
theorem target_of_written {p : Plan} {statement : Statement String}
    (h : Statement.Resolvable s.catalog q context p)
    (written : s.written p = .ok (some (statement, compiled)))
    : compiled.target = p.route.target := by
  obtain ⟨engine, _, rfl, made⟩ := eq_named_of_written h written
  unfold compile at made
  cases found : s.dialects.find (.text (Statement.named s.catalog p engine).engine) with
  | error failure => simp [found] at made
  | ok d =>
      simp only [found, Compiled.generate, Compiled.ofStatement, Traced.result_bind,
        Traced.result_ofExcept, Traced.result_note, Traced.result_pure, Outcome.bind_eq_ok,
        Outcome.ok_bind, Outcome.pure_eq, Except.ok.injEq] at made
      obtain ⟨_, ⟨_, _, rfl⟩, rfl⟩ := made
      rfl

/-- What a query is prepared with: a complete hit and no SQL, or SQL that runs where the route ends,
for what a hit, if there is one, does not give.
-/
inductive Shape (prepared : Prepared) : Prop where
  | complete {hit : CacheHit} (taken : prepared.plan.route.hit? = some hit)
      (complete : hit.isComplete = true) (unneeded : prepared.plan.needsSql = false)
      (unwritten : prepared.statement = none)
  | spoken {statement : Statement String} {compiled : Compiled}
      (written : prepared.statement = some (statement, compiled))
      (target : compiled.target = prepared.plan.route.target)
      (open' : ∀ hit, prepared.plan.route.hit? = some hit → hit.isComplete = false)

theorem Prepares.shape (h : s.Prepares q context prepared) : Shape prepared := by
  have addressed := Planning.engineFor_of_plan h.planned
  cases needed : prepared.plan.engine with
  | none =>
      obtain ⟨hit, taken, complete⟩ := (Planning.eq_none_iff_complete addressed).mp needed
      have unneeded : prepared.plan.needsSql = false := by rw [Plan.needsSql, needed]; rfl
      have unwritten : s.written prepared.plan = .ok none := by
        simp [Service.written, unneeded]
      exact .complete taken complete unneeded (Except.ok.inj (h.written.symm.trans unwritten))
  | some engine =>
      have written := h.written
      rw [written_eq h.resolvable needed, Outcome.bind_eq_ok] at written
      obtain ⟨compiled, _, same⟩ := written
      have statement := (Except.ok.inj same).symm
      exact .spoken statement (target_of_written h.resolvable (statement ▸ h.written))
        (Planning.partly_of_engineFor (needed ▸ addressed))

/-- The rows of a complete hit are made without a statement. -/
theorem Prepares.rows_of_complete (h : s.Prepares q context prepared) {hit : CacheHit}
    (taken : prepared.plan.route.hit? = some hit) (unwritten : prepared.statement = none)
    : (s.rows prepared).Quiet ∧ (s.rows prepared).result = prepared.complete [] := by
  obtain ⟨key, column⟩ := h.exists_keyColumn taken
  simp only [rows, completeHit, taken, unwritten, column, Prepared.complete, Outcome.ok_bind]
  constructor
  · refine (Traced.quiet_ofExcept _).bind fun _ => (Traced.quiet_pure _).bind fun _ => ?_
    refine (Traced.quiet_ofExcept _).bind fun _ => ?_
    exact (Traced.quiet_note ..).bind fun _ => Traced.quiet_pure _
  · simp only [Traced.result_bind, Traced.result_ofExcept, Traced.result_pure,
      Traced.result_note, Outcome.ok_bind, Outcome.bind_ok]

/-- What a hit comes to without any other rows are its visible rows, cut to the selection. -/
theorem eq_of_complete_nil {hit : CacheHit} (taken : prepared.plan.route.hit? = some hit)
    {rows : List Row} (h : prepared.complete [] = .ok rows)
    : rows = hit.visibleRows.map (Cache.projectCached prepared.plan.granted.selection) := by
  simp only [Prepared.complete, taken] at h
  obtain ⟨key, _, h⟩ := Outcome.bind_eq_ok.mp h
  obtain ⟨_, rfl⟩ := Cache.merged_eq_ok.mp (Outcome.mapError_eq_ok.mp h)
  exact List.append_nil _

/-- The rows of a query that is prepared with SQL are fetched with it. -/
theorem Prepares.fetches (h : s.Prepares q context prepared) {statement : Statement String}
    (written : prepared.statement = some (statement, compiled))
    : s.Fetches compiled (prepared.plan.route.failureFor q.source)
        (fun found => prepared.complete (found.map statement.restore)) (s.rows prepared) := by
  unfold Route.failureFor Prepared.complete
  cases taken : prepared.plan.route.hit? with
  | none =>
      simp only [rows, taken, written]
      exact fetches_runStatement statement
  | some hit =>
      obtain ⟨key, column⟩ := h.exists_keyColumn taken
      simp only [rows, completeHit, taken, written, column, h.resolvable.query_eq, Outcome.ok_bind]
      refine (fetches_runFallback statement).bind (fun rows => ?quiet)
        (fun rows => ?result
          : ∀ rows, _ = (Cache.merged hit.visibleRows rows prepared.plan.granted.selection
              key).mapError .unwritable)
      case quiet =>
        refine (Traced.quiet_ofExcept _).bind fun _ => ?_
        exact (Traced.quiet_note ..).bind fun _ => Traced.quiet_pure _
      case result =>
        simp only [Traced.result_bind, Traced.result_ofExcept, Traced.result_pure,
          Traced.result_note, Outcome.ok_bind, Outcome.bind_ok]

/-- While rows are fetched the flag is not looked at. -/
theorem Fetches.looks_eq_nil {t : Traced (List Row)} (h : s.Fetches compiled fail made t)
    : t.looks = [] := by
  rw [← Traced.looks_outward]
  cases h with
  | unavailable _ silent _ => rw [silent]; rfl
  | failed _ ran _ _ | answered _ ran _ _ => rw [ran]; rfl

/-- While rows are found the flag is not looked at. -/
theorem looks_rows (s : Service) (prepared : Prepared) : (s.rows prepared).looks = [] := by
  unfold rows
  split
  · refine Traced.looks_bind_eq_nil rfl fun key => ?_
    dsimp only
    split
    -- What is fetched is merged, without a look either.
    all_goals
      refine Traced.looks_bind_eq_nil ?_ fun _ =>
        Traced.looks_bind_eq_nil rfl fun _ => Traced.looks_bind_eq_nil rfl fun _ => rfl
    · rfl
    next statement _ _ => exact (fetches_runFallback statement).looks_eq_nil
  next statement _ _ _ => exact (fetches_runStatement statement).looks_eq_nil
  · rfl

-----------------------------------------------------------------------------------------
-- Executions
-----------------------------------------------------------------------------------------

/-- The stages in front of which an execution looks at the flag, in order. -/
def checkpoints : List Stage := preparation ++ [.execution]

/-- An execution that may be cancelled heeds the flag to the end. -/
theorem heeds_execute
    : Course.Heeds cancellation (s.execute q context .never)
        (s.execute q context cancellation) := by
  refine staged_prepare.heeds.bind fun prepared _ _ => ?_
  refine (Course.heeds_checkpoint .execution).bind fun _ _ _ => ?_
  exact (Course.heeds_ofTraced (looks_rows s prepared)).bind fun _ _ _ => Course.heeds_pure _

/-- An execution that has looked at the flag in front of some stages fails, or is prepared and finds
its rows.
-/
theorem execute_cases (s : Service) (q : Query) (context : Context) (cancellation : Cancellation)
    (past : List Happening)
    : ∃ looks,
        looks.Sublist (checkpoints.map Happening.looked)
        ∧ (((s.execute q context cancellation past).outward = looks
              ∧ ∃ failure, (s.execute q context cancellation past).result = .error failure)
            ∨ ∃ prepared,
                s.Prepares q context prepared
                ∧ (s.execute q context cancellation past).outward
                  = looks ++ (s.rows prepared).outward
                ∧ (s.execute q context cancellation past).result
                  = (fun rows => ⟨prepared, some rows⟩) <$> (s.rows prepared).result) := by
  have stages : (s.prepare q context cancellation past).outward.Sublist
      (preparation.map Happening.looked) :=
    staged_prepare.passes past
  have all : checkpoints.map Happening.looked
      = preparation.map Happening.looked ++ [.looked .execution] :=
    rfl
  unfold execute
  cases made : (s.prepare q context cancellation past).result with
  | error failure =>
      refine ⟨_, stages.trans (all ▸ List.sublist_append_left ..), .inl ⟨?_, failure, ?_⟩⟩
      · rw [Course.outward_bind_of_error made]
      · rw [Course.result_bind, made]
        rfl
  | ok prepared =>
      refine ⟨_, all ▸ stages.append (.refl _), ?_⟩
      rw [Course.outward_bind_of_ok made, Course.result_bind, made, Outcome.ok_bind]
      -- The flag is looked at once more, before rows are found.
      generalize past ++ (s.prepare q context cancellation past).trace = now
      have look : (Course.checkpoint cancellation .execution now).outward
          = [.looked .execution] :=
        rfl
      cases looked : (Course.checkpoint cancellation .execution now).result with
      | error failure =>
          rw [Course.outward_bind_of_error looked, Course.result_bind, looked, look]
          exact .inl ⟨rfl, failure, rfl⟩
      | ok _ =>
          refine .inr ⟨prepared, prepares_of_prepare made, ?_, ?_⟩
          · rw [Course.outward_bind_of_ok looked, look, Course.outward_bind_pure, List.append_assoc]
            rfl
          · rw [Course.result_bind, looked, Outcome.ok_bind, Course.result_bind,
              Course.result_ofTraced]
            cases (s.rows prepared).result <;> rfl

/-- A query is prepared in one way only. -/
theorem Prepares.eq (h : s.Prepares q context prepared) {other : Prepared}
    (h' : s.Prepares q context other)
    : other = prepared := by
  have same := ((prepare_eq_ok []).mpr h).symm.trans ((prepare_eq_ok []).mpr h')
  exact (Except.ok.inj same).symm

/-- The execution of a prepared query that is not cancelled comes to its rows. -/
theorem Prepares.result_execute (h : s.Prepares q context prepared) {past : List Happening}
    (unset : Unset cancellation past (s.execute q context cancellation past).trace)
    : (s.execute q context cancellation past).result
      = (fun rows => ⟨prepared, some rows⟩) <$> (s.rows prepared).result := by
  rw [heeds_execute.eq_of_unset unset]
  simp only [execute, Course.result_bind, (prepare_eq_ok past).mpr h,
    Course.result_checkpoint_never, Course.result_ofTraced, Outcome.ok_bind]
  cases (s.rows prepared).result <;> rfl

/-- The call of the SQL that a query is prepared with, which every answer reports. -/
structure Speaks (s : Service) (q : Query) (context : Context) (prepared : Prepared) (call : Call)
    : Prop where
  prepares : s.Prepares q context prepared
  reported : ∀ rows, (Answer.mk prepared rows).Reports call
  partly : ∀ hit, prepared.plan.route.hit? = some hit → hit.isComplete = false

/-- How an execution goes: it fails before it runs anything, or takes all rows from the cache, or
runs the SQL that it is prepared with, which fails or is answered.
-/
inductive Executed (s : Service) (q : Query) (context : Context) (run : Traced Answer) : Prop where
  | refused {failure : Failure} (silent : run.calls = []) (refused : run.result = .error failure)
  | served {prepared : Prepared} {hit : CacheHit} (taken : prepared.plan.route.hit? = some hit)
      (complete : hit.isComplete = true) (unwritten : prepared.statement = none)
      (silent : run.calls = [])
      (returned : run.result = (fun rows => ⟨prepared, some rows⟩) <$> prepared.complete [])
  | failed {prepared : Prepared} {call : Call} {executor : Executor} {o : Outage}
      (speaks : s.Speaks q context prepared call) (present : s.executor = some executor)
      (ran : run.calls = [call]) (outage : executor call = .error o)
      (refused : run.result = .error (prepared.plan.route.failureFor q.source o))
  | answered {prepared : Prepared} {call : Call} {executor : Executor} {found fetched : List Row}
      (speaks : s.Speaks q context prepared call) (present : s.executor = some executor)
      (ran : run.calls = [call]) (answer : executor call = .ok found)
      (returned : run.result = (fun rows => ⟨prepared, some rows⟩) <$> prepared.complete fetched)

theorem executed (s : Service) (q : Query) (context : Context) (cancellation : Cancellation)
    (past : List Happening)
    : s.Executed q context (s.execute q context cancellation past) := by
  obtain ⟨looks, among, goes⟩ := execute_cases s q context cancellation past
  have none := Traced.filterMap_call?_of_looks among
  have calls := Traced.calls_outward (s.execute q context cancellation past)
  rcases goes with ⟨outward, failure, refused⟩ | ⟨prepared, prepares, outward, result⟩
  · rw [outward, none] at calls
    exact .refused calls.symm refused
  rw [outward, List.filterMap_append, none, List.nil_append, eq_comm] at calls
  cases prepares.shape with
  | complete taken complete _ unwritten =>
      obtain ⟨quiet, found⟩ := prepares.rows_of_complete taken unwritten
      rw [quiet] at calls
      rw [found] at result
      exact .served taken complete unwritten calls result
  | @spoken statement compiled written target partly =>
      have speaks : s.Speaks q context prepared compiled.call :=
        ⟨prepares, fun rows => by
          simp [Answer.Reports, Answer.toMembers, written, Compiled.call, target, Value.ofText?,
            Value.ofOption, List.lookup], partly⟩
      cases prepares.fetches written with
      | unavailable none silent refused =>
          rw [silent] at calls
          rw [refused] at result
          exact .refused calls result
      | failed present ran outage refused =>
          rw [ran] at calls
          rw [refused] at result
          exact .failed speaks present calls outage result
      | answered present ran answer returned =>
          rw [ran] at calls
          rw [returned] at result
          exact .answered speaks present calls answer result

-----------------------------------------------------------------------------------------
-- What executions run and return
-----------------------------------------------------------------------------------------

namespace Executed

variable {run : Traced Answer} (h : s.Executed q context run) {answer : Answer} {call : Call}

include h

theorem length_calls_le : run.calls.length ≤ 1 := by
  cases h with
  | refused silent _ | served _ _ _ silent _ => simp [silent]
  | failed _ _ ran _ _ | answered _ _ ran _ _ => simp [ran]

/-- A call is the one of the SQL that the query is prepared with. -/
theorem exists_speaks (member : call ∈ run.calls)
    : ∃ prepared, s.Speaks q context prepared call := by
  cases h with
  | refused silent _ | served _ _ _ silent _ => rw [silent] at member; cases member
  | failed speaks _ ran _ _ | answered speaks _ ran _ _ =>
      rw [ran, List.mem_singleton] at member
      exact ⟨_, member ▸ speaks⟩

theorem reports (given : run.result = .ok answer) (member : call ∈ run.calls)
    : answer.Reports call := by
  cases h with
  | refused silent _ | served _ _ _ silent _ => rw [silent] at member; cases member
  | failed _ _ _ _ refused => rw [given] at refused; cases refused
  | answered speaks _ ran _ returned =>
      rw [ran, List.mem_singleton] at member
      obtain ⟨rows, _, rfl⟩ := Outcome.map_eq_ok.mp (returned.symm.trans given)
      exact member ▸ speaks.reported _

/-- Rows are returned behind a complete hit, or of a call that was answered. -/
theorem of_answer (given : run.result = .ok answer)
    : (run.calls = []
        ∧ answer.toMembers.lookup "sql" = some .null
        ∧ ∃ hit, answer.prepared.plan.route.hit? = some hit ∧ hit.isComplete = true)
      ∨ ∃ executor call found,
          s.executor = some executor ∧ run.calls = [call] ∧ executor call = .ok found := by
  cases h with
  | refused _ refused | failed _ _ _ _ refused => rw [given] at refused; cases refused
  | served taken complete unwritten silent returned =>
      obtain ⟨rows, _, rfl⟩ := Outcome.map_eq_ok.mp (returned.symm.trans given)
      refine .inl ⟨silent, ?_, _, taken, complete⟩
      simp [Answer.toMembers, unwritten, Value.ofText?, Value.ofOption, List.lookup]
  | answered _ present ran answer _ => exact .inr ⟨_, _, _, present, ran, answer⟩

/-- An execution fails with the call that it makes. -/
theorem of_outage {executor : Executor} {o : Outage} (present : s.executor = some executor)
    (member : call ∈ run.calls) (outage : executor call = .error o)
    : ∃ prepared,
        s.Prepares q context prepared
        ∧ run.result = .error (prepared.plan.route.failureFor q.source o) := by
  cases h with
  | refused silent _ | served _ _ _ silent _ => rw [silent] at member; cases member
  | failed speaks present' ran outage' refused =>
      rw [present, Option.some.injEq] at present'
      rw [ran, List.mem_singleton] at member
      subst present' member
      rw [outage, Except.error.injEq] at outage'
      exact ⟨_, speaks.prepares, outage' ▸ refused⟩
  | answered _ present' ran answer _ =>
      rw [present, Option.some.injEq] at present'
      rw [ran, List.mem_singleton] at member
      subst present' member
      rw [outage] at answer
      cases answer

end Executed

/-- The execution of a prepared query that is not cancelled runs what its rows are found with. -/
theorem Prepares.calls_execute (h : s.Prepares q context prepared) {past : List Happening}
    (unset : Unset cancellation past (s.execute q context cancellation past).trace)
    : (s.execute q context cancellation past).calls = (s.rows prepared).calls := by
  rw [heeds_execute.eq_of_unset unset]
  have stages : (s.prepare q context .never past).outward.Sublist
      (preparation.map Happening.looked) :=
    staged_prepare.passes past
  rw [← Traced.calls_outward, execute, Course.outward_bind_of_ok ((prepare_eq_ok past).mpr h),
    List.filterMap_append, Traced.filterMap_call?_of_looks stages, List.nil_append,
    Course.outward_bind_of_ok (Course.result_checkpoint_never ..), List.filterMap_append,
    Course.outward_bind_pure]
  exact Traced.calls_outward _

/-- The execution of a query that is prepared with SQL runs it, and makes rows of the answer. -/
theorem Prepares.spoken (h : s.Prepares q context prepared) {past : List Happening}
    {statement : Statement String} (written : prepared.statement = some (statement, compiled))
    {executor : Executor} (present : s.executor = some executor)
    (unset : Unset cancellation past (s.execute q context cancellation past).trace)
    : (s.execute q context cancellation past).calls = [compiled.call]
      ∧ ∀ found,
          executor compiled.call = .ok found
          → (s.execute q context cancellation past).result
            = (fun rows => ⟨prepared, some rows⟩)
              <$> prepared.complete (found.map statement.restore) := by
  rw [h.calls_execute unset, h.result_execute unset, ← Traced.calls_outward]
  cases h.fetches written with
  | unavailable none _ _ => rw [present] at none; cases none
  | failed present' ran outage _ =>
      cases present.symm.trans present'
      refine ⟨by rw [ran]; rfl, fun found answer => ?_⟩
      cases outage.symm.trans answer
  | answered present' ran answer returned =>
      cases present.symm.trans present'
      refine ⟨by rw [ran]; rfl, fun found answer' => ?_⟩
      cases answer.symm.trans answer'
      rw [returned]

/-- The rows of a query that is prepared with SQL cannot be found without an executor. -/
theorem Prepares.result_rows_of_no_executor (h : s.Prepares q context prepared)
    (none : s.executor = none) (needed : prepared.plan.needsSql = true)
    : (s.rows prepared).result = .error (.refused .noExecutor) := by
  cases h.shape with
  | complete _ _ unneeded _ => rw [needed] at unneeded; cases unneeded
  | spoken written _ _ =>
      cases h.fetches written with
      | unavailable _ _ refused => exact refused
      | failed present _ _ _ | answered present _ _ _ => rw [none] at present; cases present

/-- What an execution runs and what it comes to, above all where nobody cancels it. -/
structure RunsOnce (s : Service) (q : Query) (context : Context) (cancellation : Cancellation)
    (past : List Happening) (run : Traced Answer)
    : Prop where
  once : run.calls.length ≤ 1
  complete
    : ∀ prepared hit,
        s.Prepares q context prepared
        → prepared.plan.route.hit? = some hit
        → hit.isComplete = true
        → run.calls = []
  prepared
    : ∀ call ∈ run.calls,
        ∃ prepared, s.Prepares q context prepared ∧ (Answer.mk prepared none).Reports call
  reported : ∀ answer, run.result = .ok answer → ∀ call ∈ run.calls, answer.Reports call
  answered
    : ∀ answer,
        run.result = .ok answer
        → (run.calls = []
            ∧ answer.toMembers.lookup "sql" = some .null
            ∧ ∃ hit, answer.prepared.plan.route.hit? = some hit ∧ hit.isComplete = true)
          ∨ ∃ executor call found,
              s.executor = some executor ∧ run.calls = [call] ∧ executor call = .ok found
  failed
    : ∀ executor call o,
        s.executor = some executor
        → call ∈ run.calls
        → executor call = .error o
        → ∃ prepared,
            s.Prepares q context prepared
            ∧ run.result = .error (prepared.plan.route.failureFor q.source o)
  unavailable
    : ∀ prepared,
        s.executor = none
        → s.Prepares q context prepared
        → prepared.plan.needsSql = true
        → Unset cancellation past run.trace
        → run.result = .error (.refused .noExecutor)
  spoken
    : ∀ prepared statement compiled executor,
        s.Prepares q context prepared
        → prepared.statement = some (statement, compiled)
        → s.executor = some executor
        → Unset cancellation past run.trace
        → run.calls = [compiled.call]
          ∧ ∀ found,
              executor compiled.call = .ok found
              → run.result
                = (fun rows => ⟨prepared, some rows⟩)
                  <$> prepared.complete (found.map statement.restore)
  served
    : ∀ prepared hit,
        s.Prepares q context prepared
        → prepared.plan.route.hit? = some hit
        → hit.isComplete = true
        → Unset cancellation past run.trace
        → run.result = (fun rows => ⟨prepared, some rows⟩) <$> prepared.complete []

/-- An execution runs at most one statement, the one that its answer reports, and none for a
complete hit. It returns rows only behind a complete hit or when that statement was answered; when
the statement fails the execution fails with it, whatever the cache gave, and without an executor it
cannot be run. Unless it is cancelled the statement of a prepared query is run, and its rows are
returned, together with those of the hit that it completes.
-/
theorem runs_once (s : Service) (q : Query) (context : Context) (cancellation : Cancellation)
    (past : List Happening)
    : s.RunsOnce q context cancellation past (s.execute q context cancellation past) := by
  have goes := executed s q context cancellation past
  constructor
  case once => exact goes.length_calls_le
  case complete =>
    intro prepared hit prepares taken complete
    rw [List.eq_nil_iff_forall_not_mem]
    intro call member
    obtain ⟨other, speaks⟩ := goes.exists_speaks member
    obtain rfl := prepares.eq speaks.prepares
    rw [speaks.partly hit taken] at complete
    cases complete
  case prepared =>
    intro call member
    obtain ⟨prepared, speaks⟩ := goes.exists_speaks member
    exact ⟨prepared, speaks.prepares, speaks.reported none⟩
  case reported => exact fun _ given _ member => goes.reports given member
  case answered => exact fun _ given => goes.of_answer given
  case failed => exact fun _ _ _ present member outage => goes.of_outage present member outage
  case unavailable =>
    intro prepared none prepares needed unset
    rw [prepares.result_execute unset, prepares.result_rows_of_no_executor none needed]
    rfl
  case spoken =>
    exact fun _ _ _ _ prepares written present unset => prepares.spoken written present unset
  case served =>
    intro prepared hit prepares taken complete unset
    rw [prepares.result_execute unset]
    cases prepares.shape with
    | complete taken _ _ unwritten => rw [(prepares.rows_of_complete taken unwritten).2]
    | spoken _ _ partly =>
        rw [partly hit taken] at complete
        cases complete

end Service

namespace Sample

/-- A user that the cache does not have is fetched with the one statement that is run, and shown
together with the cached one.
-/
theorem lookup_runs_once
    : ∃ answer statement compiled,
        answer.prepared.statement = some (statement, compiled)
        ∧ (service.execute lookup context .never []).calls = [compiled.call]
        ∧ (service.execute lookup context .never []).result = .ok answer
        ∧ answer.Reports compiled.call
        ∧ answer.prepared.plan.fallback = [.int 3]
        ∧ answer.rows = some visiblePeople := by
  have parts
      : (service.execute lookup context .never []).result.map
          (fun answer =>
            (answer.prepared.plan.fallback, answer.prepared.statement.isSome, answer.rows))
        = .ok ([.int 3], true, some visiblePeople) := by
    cbv
  obtain ⟨answer, executed, parts⟩ := Outcome.map_eq_ok.mp parts
  simp only [Prod.mk.injEq] at parts
  obtain ⟨left, spoken, shown⟩ := parts
  obtain ⟨⟨statement, compiled⟩, written⟩ := Option.isSome_iff_exists.mp spoken
  have goes := Service.runs_once service lookup context .never []
  have calls := (goes.spoken answer.prepared statement compiled executor
    ((Service.execute_eq_ok []).mp executed).1 written rfl fun _ _ _ _ => rfl).1
  have reported := goes.reported answer executed compiled.call (by rw [calls]; simp)
  exact ⟨answer, statement, compiled, written, calls, executed, reported, left, shown⟩

end Sample

end Polystore
