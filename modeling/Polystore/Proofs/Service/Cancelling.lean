import Polystore.Proofs.Service.Calls
import Polystore.Proofs.Trace.Stretches

/-! Cancelling an execution. An execution goes from stage to stage, with a look at the flag in front
of each and the stage's decisions behind the look. Whenever the flag is set, the execution stops at
its next look, with the log of the stages before; where it does not look any more, it goes on as if
nobody had cancelled it.
-/

namespace Polystore

/-- The decisions that a computation records. -/
def Traced.entries {α : Type} (t : Traced α) : List Entry := t.trace.filterMap Happening.entry?

namespace Service

variable {s : Service} {q : Query} {context : Context} {cancellation : Cancellation}
  {past : List Happening}

-----------------------------------------------------------------------------------------
-- The stages that are reached
-----------------------------------------------------------------------------------------

/-- What is done within the stage that writes the SQL of a plan. -/
def generation (s : Service) (surroundings : Row) (plan : Plan) (statement : Statement String)
    : Traced Compiled := do
  let compiled ← (s.compile statement).within surroundings
  .log .info "query_resolved" [
    ("strategy", .text plan.route.strategy), ("target", .text plan.route.target),
    ("dialect", .text compiled.dialect)]
  return compiled

/-- The stages that executing a query reaches, each with what is recorded within it: a stage is
reached where the work of the stage before succeeds, and the last is that which finds the rows.
-/
def reached (s : Service) (q : Query) (context : Context) : List Stretch :=
  let surroundings : Row := [("role", .text context.role), ("table", .text q.source)]
  let tolerance := q.freshness.getD s.standardFreshness
  Stretch.of .validation ((validate s.catalog q context.role).within surroundings) fun _ =>
  Stretch.of .rowRules ((Access.apply s.catalog q context).within surroundings) fun granted =>
  Stretch.of .planning
      ((Planning.plan s.catalog s.facilities granted context tolerance).within surroundings)
      fun plan =>
    if !plan.needsSql then Stretch.of .execution (s.rows ⟨plan, none⟩) fun _ => []
    else
      Stretch.of .nameResolution ((Statement.resolve plan).within surroundings) fun statement =>
      Stretch.of .generation (s.generation surroundings plan statement) fun compiled =>
      Stretch.of .execution (s.rows ⟨plan, some (statement, compiled)⟩) fun _ => []

/-- An execution that nobody cancels records its stages, one after the other. -/
theorem trace_execute (s : Service) (q : Query) (context : Context) (past : List Happening)
    : (s.execute q context .never past).trace = Stretch.traces (s.reached q context) := by
  -- The last stage, behind whatever the query is prepared with.
  have last (prepared : Prepared) (past : List Happening)
      : ((Course.checkpoint .never .execution >>= fun _ =>
            Course.ofTraced (s.rows prepared) >>= fun rows =>
              pure (Answer.mk prepared (some rows))) past).trace
        = Stretch.traces (Stretch.of .execution (s.rows prepared) fun _ => []) :=
    Course.trace_stage .execution _ (fun _ _ _ => rfl) past
  simp only [execute, prepare, stages, Course.bind_assoc]
  refine Course.trace_stage .validation _ (fun _ past _ => ?_) past
  refine Course.trace_stage .rowRules _ (fun granted past _ => ?_) past
  refine Course.trace_stage .planning _ (fun plan past _ => ?_) past
  cases plan.needsSql with
  | false =>
      simp only [Bool.not_false, if_true, Course.pure_bind]
      exact last ⟨plan, none⟩ past
  | true =>
      simp only [Bool.not_true, Bool.false_eq_true, if_false, Course.bind_assoc, Course.pure_bind]
      refine Course.trace_stage .nameResolution _ (fun statement past _ => ?_) past
      have generated (surroundings : Row) :=
        Course.trace_stage .generation (s.generation surroundings plan statement)
          (fun compiled past _ => last ⟨plan, some (statement, compiled)⟩ past) past
      simpa only [generation, Course.ofTraced_bind, Course.ofTraced_pure, Course.bind_assoc,
        Course.pure_bind] using generated _

/-- The stages that are reached are among those in front of which there is a checkpoint, in
order.
-/
theorem sublist_reached (s : Service) (q : Query) (context : Context)
    : ((s.reached q context).map Stretch.stage).Sublist checkpoints := by
  refine Stretch.sublist_of fun _ => Stretch.sublist_of fun _ => Stretch.sublist_of fun plan => ?_
  cases plan.needsSql with
  | false =>
      -- The stages that write a statement are left out.
      exact .cons _ (.cons _ (Stretch.sublist_of fun _ => List.nil_sublist _))
  | true =>
      refine Stretch.sublist_of fun _ => Stretch.sublist_of fun _ => Stretch.sublist_of fun _ => ?_
      exact List.nil_sublist _

/-- What is recorded within a stage: no look at the flag, and no call but in the last stage. -/
structure WithinStage (x : Stretch) : Prop where
  undisturbed : x.Undisturbed
  silent : x.stage ≠ .execution → x.calls = []

theorem withinStage_of_quiet {α : Type} {t : Traced α} (quiet : t.Quiet) (stage : Stage)
    : WithinStage ⟨stage, t.trace⟩ := by
  refine ⟨quiet.looks_eq_nil, fun _ => ?_⟩
  exact (Traced.calls_outward t).symm.trans (by rw [quiet]; rfl)

theorem withinStage_execution (s : Service) (prepared : Prepared)
    : WithinStage ⟨.execution, (s.rows prepared).trace⟩ :=
  ⟨looks_rows s prepared, fun other => absurd rfl other⟩

theorem quiet_generation (surroundings : Row) (plan : Plan) (statement : Statement String)
    : (s.generation surroundings plan statement).Quiet := by
  refine ((quiet_compile s statement).within _).bind fun _ => ?_
  exact (Traced.quiet_log ..).bind fun _ => Traced.quiet_pure _

/-- Every stage that is reached keeps to itself, by the work that there is in each. -/
theorem withinStage_of_reached : ∀ x ∈ s.reached q context, WithinStage x := by
  refine Stretch.forall_mem_of (withinStage_of_quiet ((quiet_validate ..).within _) _) fun _ _ => ?_
  refine Stretch.forall_mem_of (withinStage_of_quiet ((Access.quiet_apply _).within _) _)
    fun _ _ => ?_
  refine Stretch.forall_mem_of (withinStage_of_quiet ((Planning.quiet_plan ..).within _) _)
    fun plan _ => ?_
  cases plan.needsSql with
  | false => exact Stretch.forall_mem_of (withinStage_execution ..) nofun
  | true =>
      refine Stretch.forall_mem_of (withinStage_of_quiet ((Statement.quiet_resolve _).within _) _)
        fun _ _ => ?_
      refine Stretch.forall_mem_of (withinStage_of_quiet (quiet_generation ..) _) fun _ _ => ?_
      exact Stretch.forall_mem_of (withinStage_execution ..) nofun

-----------------------------------------------------------------------------------------
-- Executions that stop
-----------------------------------------------------------------------------------------

/-- An execution that nobody cancels goes through some stages: it looks at the flag in front of each
and not in between, in the order of the checkpoints, and runs statements in the last one only.
-/
structure GoesThrough (free : Traced Answer) (stretches : List Stretch) : Prop where
  recorded : free.trace = Stretch.traces stretches
  inOrder : (stretches.map Stretch.stage).Sublist checkpoints
  within : ∀ x ∈ stretches, WithinStage x

/-- The flag is looked at in front of the stages, and nowhere else. -/
theorem GoesThrough.looks_eq {free : Traced Answer} {stretches : List Stretch}
    (h : GoesThrough free stretches)
    : free.looks = stretches.map Stretch.stage := by
  rw [Traced.looks, h.recorded]
  exact Stretch.looks_traces fun x member => (h.within x member).undisturbed

/-- No stage comes behind the last one, so that none is silent in front of another. -/
theorem GoesThrough.calls_eq_nil {free : Traced Answer} {front back : List Stretch} {next : Stretch}
    (h : GoesThrough free (front ++ next :: back))
    : front.flatMap Stretch.calls = [] := by
  have last : checkpoints.Pairwise fun stage _ => stage ≠ .execution := by decide
  have inOrder := List.pairwise_map.mp (last.sublist h.inOrder)
  obtain ⟨_, _, before⟩ := List.pairwise_append.mp inOrder
  refine List.flatMap_eq_nil_iff.mpr fun x member => ?_
  exact (h.within x (List.mem_append_left _ member)).silent
    (before x member next (List.mem_cons_self ..))

/-- An execution that has stopped behind some stages, at its look in front of the next one: the flag
was unset in front of each stage before and is set now. No statement has been run, and the log is
what those stages have decided, which is the first part of the log of the free execution.
-/
structure Cancelled (cancellation : Cancellation) (past : List Happening)
    (free run : Traced Answer) (front : List Stretch) (next : Stretch)
    : Prop where
  unset : Stretch.Unset cancellation past front
  set : cancellation (past ++ Stretch.traces front) = true
  recorded : run.trace = Stretch.traces front ++ [.looked next.stage]
  refused : run.result = .error (.refused (.cancelled next.stage))
  silent : run.calls = []
  log : run.entries = front.flatMap Stretch.entries
  first : run.entries <+: free.entries

/-- A run that has stopped at a look between stages is cancelled in front of one of them. -/
theorem cancelled_of_stopped {free run : Traced Answer} {stretches : List Stretch}
    {before : List Happening} {stage : Stage} (goes : GoesThrough free stretches)
    (stopped : Stopped cancellation past free run before stage)
    : ∃ front next back,
        stretches = front ++ next :: back ∧ Cancelled cancellation past free run front next := by
  obtain ⟨after, reached⟩ := stopped.reached
  obtain ⟨front, next, back, rfl, rfl, rfl⟩ := Stretch.exists_split
    (fun x member => (goes.within x member).undisturbed) (goes.recorded.symm.trans reached)
  have log : run.entries = front.flatMap Stretch.entries := by
    rw [Traced.entries, stopped.recorded, List.filterMap_append, Stretch.entries_traces]
    exact List.append_nil _
  refine ⟨front, next, back, rfl, ?_⟩
  constructor
  case unset => exact Stretch.unset_of_traces stopped.unset
  case set => exact stopped.set
  case recorded => exact stopped.recorded
  case refused => exact stopped.refused
  case silent =>
    rw [Traced.calls, stopped.recorded, List.filterMap_append, Stretch.calls_traces,
      goes.calls_eq_nil]
    rfl
  case log => exact log
  case first =>
    rw [log, Traced.entries, goes.recorded, Stretch.entries_traces, List.flatMap_append]
    exact List.prefix_append _ _

/-- An execution that nobody cancels goes through the stages that it reaches. One that may be
cancelled at any time goes the same way, if the flag is unset in front of each of these stages, or
stops in front of the first one where it is set, with a refusal that names the stage. It has run no
statement then, and its log is that of the stages before.
-/
theorem cancelled_at_next_checkpoint (s : Service) (q : Query) (context : Context)
    (cancellation : Cancellation) (past : List Happening)
    : let free := s.execute q context .never past
      let run := s.execute q context cancellation past
      let stretches := s.reached q context
      GoesThrough free stretches
      ∧ ((run = free ∧ Stretch.Unset cancellation past stretches)
          ∨ ∃ front next back,
              stretches = front ++ next :: back
              ∧ Cancelled cancellation past free run front next) := by
  have goes : GoesThrough (s.execute q context .never past) (s.reached q context) :=
    ⟨trace_execute s q context past, sublist_reached s q context, withinStage_of_reached⟩
  refine ⟨goes, ?_⟩
  rcases heeds_execute past with ⟨same, unset⟩ | ⟨before, stage, stopped⟩
  · exact .inl ⟨same, Stretch.unset_of_traces (goes.recorded ▸ unset)⟩
  · exact .inr (cancelled_of_stopped goes stopped)

end Service

namespace Sample

/-- A lookup that is cancelled while the cache is read stops behind planning, the stage in which
that happens, with the decisions of the stages so far.
-/
theorem lookup_cancelled_behind_planning
    : ∃ front next back,
        service.reached lookup context = front ++ next :: back
        ∧ front.map Stretch.stage = [.validation, .rowRules, .planning]
        ∧ next.stage = .nameResolution
        ∧ back ≠ []
        ∧ Service.Cancelled .onCacheRead [] (service.execute lookup context .never [])
            (service.execute lookup context .onCacheRead []) front next := by
  have all : (service.execute lookup context .never []).looks = Service.checkpoints := by
    cbv
  have some
      : (service.execute lookup context .onCacheRead []).looks
        = [.validation, .rowRules, .planning, .nameResolution] := by
    cbv
  obtain ⟨goes, same | ⟨front, next, back, split, cancelled⟩⟩ :=
    Service.cancelled_at_next_checkpoint service lookup context .onCacheRead []
  · rw [same.1, all] at some
    cases some
  · have others : (front ++ next :: back).map Stretch.stage = Service.checkpoints := by
      rw [← split, ← goes.looks_eq, all]
    have undisturbed (x : Stretch) (member : x ∈ front) : x.Undisturbed :=
      (goes.within x (split ▸ List.mem_append_left _ member)).undisturbed
    rw [Traced.looks, cancelled.recorded, List.filterMap_append,
      Stretch.looks_traces undisturbed] at some
    have looks : front.map Stretch.stage ++ [next.stage]
        = [.validation, .rowRules, .planning] ++ [.nameResolution] :=
      some
    obtain ⟨stages, stage⟩ := List.append_inj' looks rfl
    refine ⟨front, next, back, split, stages, List.singleton_inj.mp stage, ?_, cancelled⟩
    rintro rfl
    rw [List.map_append, stages] at others
    cases (congrArg List.length others : 4 = 6)

end Sample

end Polystore
