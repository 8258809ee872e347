import Polystore.Proofs.Access.Denials
import Polystore.Proofs.Planning.Assignments
import Polystore.Proofs.Planning.Dialects
import Polystore.Proofs.Service.Writing

/-! Why a query is not planned. Without a cache, and where every engine has its dialect, there are a
handful of refusals, each with a cause in the query, the role, the context or the databases. What
validation has accepted meets no refusal that stands for a fault in a later stage, and a single
fault: that its pages are of a number with too many digits, where they come to be written.
-/

namespace Polystore

open Outcome

namespace Service

variable {s : Service} {q : Query} {context : Context} {past : List Happening}

/-- The refusals that a query may meet on the way to its statement: it is not valid; the role may
not see what it touches, or a value is lacking; its tables cannot be reached together; or, where it
is valid, it selects nothing, aggregates the empty reference, or a table has no catalog.
-/
inductive Foreseen (c : Catalog) (q : Query) (context : Context) : Failure → Prop where
  | invalid
    : Validation.issues c q ≠ []
      → Foreseen c q context (.refused (.invalid (Validation.issues c q)))
  | denied {failure : Failure} : Access.Denied q context failure → Foreseen c q context failure
  | unreachable (tables : List Unreachable) : Foreseen c q context (.refused (.unreachable tables))
  | noColumns
    : q.mode ≠ .count → q.isAggregate = false
      → Foreseen c q context (.refused (.inexpressible .noColumns))
  | aggregateWithoutColumn {a : Aggregation}
    : a ∈ q.aggregations → a.column = some "" → a.fn ≠ .count
      → Foreseen c q context
        (.refused (.inexpressible (.aggregateWithoutColumn (Named.known a.fn).value)))
  | noCatalog {name : String}
    : name ∈ q.tableNames → Foreseen c q context (.refused (.inexpressible (.noCatalog name)))

/-- A query with issues is refused with all of them. -/
theorem failsOnly_validate (c : Catalog) (role : String)
    : FailsOnly (Foreseen c q context) (validate c q role).result := by
  unfold validate
  split
  · exact failsOnly_ok _
  next first rest found =>
    simp only [Traced.result_bind, Traced.result_note, Outcome.ok_bind]
    have some : Validation.issues c q ≠ [] := by simp [found]
    rw [← found]
    exact failsOnly_error (.invalid some)

/-- Faults are no refusals. -/
theorem not_foreseen_fault {c : Catalog} (fault : Fault)
    : ¬ Foreseen c q context (.fault fault) := by
  intro foreseen
  cases foreseen with
  | denied denied => cases denied

/-- How far a query comes whose pages are to be written: it is valid, granted and planned, and lacks
nothing for its statement in the dialect of its plan.
-/
structure ReachesPages (s : Service) (q : Query) (context : Context) (granted : ScopedQuery)
    (p : Plan) (engine : String) (d : Dialect) : Prop where
  valid : Validation.issues s.catalog q = []
  allowed : (Access.apply s.catalog q context).result = .ok granted
  planned
    : (Planning.plan s.catalog s.facilities granted context
        (q.freshness.getD s.standardFreshness)).result
      = .ok p
  needed : p.engine = some engine
  spoken : s.dialects.find (.text engine) = .ok d
  lacksNothing : ∀ what, ¬ Statement.LacksFor d q p what

/-- Whether the pages of a query come to be written. -/
def WritesPages (s : Service) (q : Query) (context : Context) : Prop :=
  ∃ granted p engine d, s.ReachesPages q context granted p engine d

/-- What may be met on the way to a statement: what is foreseen, or pages to be written that have
too many digits.
-/
inductive Met (s : Service) (q : Query) (context : Context) : Failure → Prop where
  | foreseen {failure : Failure}
    : Foreseen s.catalog q context failure → Met s q context failure
  | pages
    : s.WritesPages q context → ¬ q.PagesFit
      → Met s q context (.fault (.unwritable .tooManyDigits))

/-- What a valid query's plan needs is written in a known dialect, or not for what may be met. -/
theorem met_of_notWritten {granted : ScopedQuery} {p : Plan} {engine : String} {failure : Failure}
    (complete : s.dialects.Complete) (valid : Validation.issues s.catalog q = [])
    (allowed : (Access.apply s.catalog q context).result = .ok granted)
    (planned
      : (Planning.plan s.catalog s.facilities granted context
          (q.freshness.getD s.standardFreshness)).result
        = .ok p)
    (needed : p.engine = some engine)
    (reason : NotWritten s.dialects (Statement.named s.catalog p engine) failure)
    : Met s q context failure := by
  have resolvable := Statement.resolvable_of_plan valid allowed planned
  have addressed := needed ▸ Planning.engineFor_of_plan planned
  rcases reason with unknown | ⟨d, spoken, reason⟩
  · obtain ⟨d, known⟩ := Planning.exists_find complete addressed
    cases known.symm.trans unknown
  cases reason with
  | lacks lacks =>
      refine .foreseen ?_
      cases resolvable.lacksFor_of_lacks valid lacks with
      | noColumns rows plain _ => exact .noColumns rows plain
      | aggregateWithoutColumn listed empty other =>
          exact .aggregateWithoutColumn listed empty other
      | noCatalog _ touched _ => exact .noCatalog touched
  | pages nothing unfit =>
      refine .pages ⟨granted, p, engine, d, valid, allowed, planned, needed, spoken, ?_⟩ ?_
      · exact fun what lacks => nothing what (resolvable.lacks_of_lacksFor valid lacks)
      · exact fun fit => unfit (resolvable.pagesFit_named.mpr fit)

/-- What a valid query's plan needs is written, or not for what may be met. -/
theorem failsOnly_written_met {granted : ScopedQuery} {p : Plan} (complete : s.dialects.Complete)
    (valid : Validation.issues s.catalog q = [])
    (allowed : (Access.apply s.catalog q context).result = .ok granted)
    (planned
      : (Planning.plan s.catalog s.facilities granted context
          (q.freshness.getD s.standardFreshness)).result
        = .ok p)
    : FailsOnly (Met s q context) (s.written p) := by
  have resolvable := Statement.resolvable_of_plan valid allowed planned
  cases needed : p.engine with
  | none =>
      rw [written, Plan.needsSql, needed]
      exact failsOnly_ok _
  | some engine =>
      exact (failsOnly_written resolvable valid needed).imp fun failure =>
        met_of_notWritten complete valid allowed planned needed

/-- The stages of a query without a cache, where every engine has its dialect, meet only what may be
met.
-/
theorem failsOnly_stages (uncached : s.facilities.cache = none) (complete : s.dialects.Complete)
    : FailsOnly (Met s q context) (s.stages q context .never past).result := by
  simp only [stages, Course.result_bind, Course.result_checkpoint_never,
    Course.result_ofTraced, Traced.result_within, Outcome.ok_bind]
  refine ((failsOnly_validate s.catalog context.role).imp fun _ => .foreseen).bind
    fun _ validated => ?_
  have valid := validate_eq_ok.mp validated
  have accepted := Validation.accepted_of_issues valid
  refine ((Access.failsOnly_apply accepted).imp fun _ denied => .foreseen (.denied denied)).bind
    fun granted allowed => ?_
  have asked := Planning.throughCache_eq_none (s := ⟨s.catalog, s.facilities, granted,
    s.catalog.touched q, context, q.freshness.getD s.standardFreshness⟩) uncached
  have routed := Planning.failsOnly_plan (Access.granted_of_apply allowed) ⟨none, asked⟩
  refine (routed.imp ?_).bind fun p planned => ?_
  · rintro _ ⟨tables, rfl⟩
    exact .foreseen (.unreachable tables)
  · have written := failsOnly_written_met complete valid allowed planned
    intro failure failed
    exact written.map (Prepared.mk p) failure ((result_writing _ _ p).symm.trans failed)

/-- Where the pages of a query come to be written and do not fit, planning it ends with that. -/
theorem plan_of_unfit (writes : s.WritesPages q context) (unfit : ¬ q.PagesFit)
    : (s.plan q context .never past).result = .error (.fault (.unwritable .tooManyDigits)) := by
  obtain ⟨granted, p, engine, d, reaches⟩ := writes
  have resolvable := Statement.resolvable_of_plan reaches.valid reaches.allowed reaches.planned
  have spoken := resolvable.spoken_named reaches.valid reaches.needed
  rw [result_plan reaches.valid reaches.allowed, reaches.planned, Outcome.ok_bind]
  cases written : s.written p with
  | ok found =>
      rw [written_eq resolvable reaches.needed] at written
      obtain ⟨compiled, made, _⟩ := Outcome.bind_eq_ok.mp written
      obtain ⟨d', _, made⟩ := compile_eq_ok.mp made
      have clauses := Compiled.exists_ofStatement_iff.mp ⟨compiled, made⟩
      have fit := ((Sql.exists_clauses_iff spoken).mp clauses).2
      exact absurd (resolvable.pagesFit_named.mp fit) unfit
  | error failure =>
      rcases failsOnly_written resolvable reaches.valid reaches.needed failure written with
        unknown | ⟨d', found, reason⟩
      · cases reaches.spoken.symm.trans unknown
      obtain rfl : d = d' := Except.ok.inj (reaches.spoken.symm.trans found)
      cases reason with
      | lacks lacks =>
          exact absurd (resolvable.lacksFor_of_lacks reaches.valid lacks) (reaches.lacksNothing _)
      | pages => rfl

/-- Planning a query without a cache, where every engine has its dialect, comes to an answer, to
one of the foreseen refusals or to the fault of a number with too many digits. That fault is left to
meet exactly if the pages of the query come to be written and are of such a number.
-/
theorem plan_foreseen_iff (uncached : s.facilities.cache = none) (complete : s.dialects.Complete)
    : FailsOnly
        (fun failure =>
          Foreseen s.catalog q context failure
          ∨ failure = .fault (.unwritable .tooManyDigits))
        (s.plan q context .never past).result
      ∧ (FailsOnly (Foreseen s.catalog q context) (s.plan q context .never past).result
        ↔ (s.WritesPages q context → q.PagesFit)) := by
  have met : FailsOnly (Met s q context) (s.plan q context .never past).result := by
    simp only [Service.plan, Course.result_bind, result_prepare, Course.result_pure]
    exact (failsOnly_stages uncached complete).bind fun _ _ => failsOnly_ok _
  refine ⟨met.imp ?_, ?_, ?_⟩
  · rintro failure (foreseen | _)
    · exact .inl foreseen
    · exact .inr rfl
  · intro foreseen writes
    by_contra unfit
    exact not_foreseen_fault _ (foreseen _ (plan_of_unfit writes unfit))
  · intro fits
    refine met.imp ?_
    rintro failure (foreseen | ⟨writes, unfit⟩)
    · exact foreseen
    · exact absurd (fits writes) unfit

end Service

namespace Sample

/-- A service over the lake that has no cache. -/
def lakeService : Service := ⟨lakeCatalog, facilities, .hours, .standard, none⟩

/-- Some first orders. -/
def firstOrders (n : Int) : Query := { ordersQuery with limit := some n }

/-- A number of one digit more than can be written. -/
def longPage : Int := (10 ^ Json.digitLimit : Nat)

/-- Orders on their own are refused for a foreseen reason, as their home in the lake has no catalog:
no fault is met, since their pages do not come to be written.
-/
theorem lake_orders_refused_as_foreseen
    : lakeService.facilities.cache = none
      ∧ lakeService.dialects.Complete
      ∧ ∃ failure,
          (lakeService.plan ordersQuery context .never []).result.map (fun _ => ()) = .error failure
          ∧ failure = .refused (.inexpressible (.noCatalog "orders"))
          ∧ Service.Foreseen lakeCatalog ordersQuery context failure := by
  have refused : (lakeService.plan ordersQuery context .never []).result.map (fun _ => ())
      = .error (.refused (.inexpressible (.noCatalog "orders"))) := by
    cbv
  have fits : ordersQuery.PagesFit := by
    refine .inr ⟨fun n five => ?_, fun n none => by cases none⟩
    cases five
    exact Nat.lt_of_lt_of_le (by decide : 5 < 10 ^ 1) (Nat.pow_le_pow_right (by decide) (by decide))
  have foreseen : Outcome.FailsOnly (Service.Foreseen lakeCatalog ordersQuery context)
      (lakeService.plan ordersQuery context .never []).result :=
    (Service.plan_foreseen_iff rfl Dialects.complete_standard).2.mpr fun _ => fits
  exact ⟨rfl, Dialects.complete_standard, _, refused, rfl, foreseen.map (fun _ => ()) _ refused⟩

variable {n : Int}

theorem firstOrders_valid (some : 0 < n) : Validation.issues catalog (firstOrders n) = [] := by
  have paging : Validation.pagingIssues (firstOrders n) = [] := by
    simp [Validation.pagingIssues, firstOrders, ordersQuery, query, some]
  rw [Validation.issues, paging]
  rfl

/-- Some first orders are to be read where they are stored, whatever their number. -/
theorem firstOrders_planned (n : Int)
    : ∃ granted p,
        (Access.apply catalog (firstOrders n) context).result = .ok granted
        ∧ (Planning.plan catalog facilities granted context .hours).result = .ok p
        ∧ p.engine = some "postgres"
        ∧ p.granted.selection ≠ [] := by
  have taken
      : (do
          let granted ← Access.apply catalog (firstOrders n) context
          let p ← Planning.plan catalog facilities granted context .hours
          return (p.engine, p.granted.selection.length)).result
        = .ok (some "postgres", 1) := by
    rfl
  simp only [Traced.result_bind, Outcome.bind_eq_ok] at taken
  obtain ⟨granted, allowed, p, planned, same⟩ := taken
  simp only [Traced.result_pure, Except.ok.injEq, Prod.mk.injEq] at same
  exact ⟨granted, p, allowed, planned, same.1, List.ne_nil_of_length_eq_add_one same.2⟩

/-- Some first orders come to be counted, whatever their number. -/
theorem firstOrders_writes_pages (some : 0 < n)
    : plainService.WritesPages (firstOrders n) context := by
  obtain ⟨granted, p, allowed, planned, needed, selected⟩ := firstOrders_planned n
  refine ⟨granted, p, _, Dialect.postgres, firstOrders_valid some, allowed, planned, needed, rfl,
    ?_⟩
  rintro _ (⟨_, _, none⟩ | ⟨listed, _, _⟩ | ⟨qualified, _, _⟩)
  · exact selected none
  · cases listed
  · cases qualified

/-- The first orders of a number that is too long are accepted as a query, and yet there is a fault
that no refusal stands for.
-/
theorem first_orders_not_planned
    : plainService.facilities.cache = none
      ∧ plainService.dialects.Complete
      ∧ Validation.issues catalog (firstOrders longPage) = []
      ∧ (plainService.plan (firstOrders longPage) context .never []).result
        = .error (.fault (.unwritable .tooManyDigits))
      ∧ ¬ Service.Foreseen catalog (firstOrders longPage) context
          (.fault (.unwritable .tooManyDigits)) := by
  have some : 0 < longPage := Int.natCast_pos.mpr (Nat.pow_pos (by decide))
  have unfit : ¬ (firstOrders longPage).PagesFit := by
    rintro (counts | ⟨limit, _⟩)
    · cases counts
    · have few := limit longPage rfl
      rw [longPage, Int.natAbs_natCast] at few
      exact lt_irrefl _ few
  exact ⟨rfl, Dialects.complete_standard, firstOrders_valid some,
    Service.plan_of_unfit (firstOrders_writes_pages some) unfit, Service.not_foreseen_fault _⟩

end Sample

end Polystore
