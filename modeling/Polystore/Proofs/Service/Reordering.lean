import Polystore.Proofs.Planning.Reordering
import Polystore.Proofs.Service.Refusals
import Polystore.Proofs.Validation.Reordering

/-! Planning queries over a document in another order. What is declared in another order is accepted
as well, and every query comes to the same answer over it, or fails in the same way.
-/

namespace Polystore

open Validation (IssuesAlike)

-----------------------------------------------------------------------------------------
-- Outcomes that are alike
-----------------------------------------------------------------------------------------

/-- Failures that are the same, or refuse a query for issues that are alike. -/
inductive Failure.Alike : Failure → Failure → Prop where
  | same (failure : Failure) : Alike failure failure
  | invalid {issues others : List Validation.Issue} (alike : IssuesAlike issues others)
      : Alike (.refused (.invalid issues)) (.refused (.invalid others))

/-- The same success twice, or failures that are alike. -/
def OutcomesAlike {α : Type} : Except Failure α → Except Failure α → Prop
  | .ok a, .ok b => b = a
  | .error failure, .error other => failure.Alike other
  | _, _ => False

theorem OutcomesAlike.refl {α : Type} (outcome : Except Failure α)
    : OutcomesAlike outcome outcome := by
  cases outcome with
  | ok a => rfl
  | error failure => exact .same failure

namespace Service

variable {s : Service} {q : Query} {context : Context} {cancellation : Cancellation}

-----------------------------------------------------------------------------------------
-- Stages over a catalog in another order
-----------------------------------------------------------------------------------------

/-- An invalid query is refused for its issues, unless it is cancelled before. -/
theorem plan_of_invalid {issue : Validation.Issue} {rest : List Validation.Issue}
    (invalid : Validation.issues s.catalog q = issue :: rest) (past : List Happening)
    : (s.plan q context cancellation past).result
      = if cancellation past then .error (.refused (.cancelled .validation))
        else .error (.refused (.invalid (issue :: rest))) := by
  have refused : (validate s.catalog q context.role).result
      = .error (.refused (.invalid (issue :: rest))) := by
    unfold validate
    rw [invalid]
    rfl
  simp only [plan, prepare, stages, Course.result_bind, Course.result_ofTraced,
    Traced.result_within, refused, Course.checkpoint]
  split <;> rfl

/-- The stages of a valid query are the same, with what they record. -/
theorem stages_reordered {other : Catalog} (h : s.catalog.Reordered other)
    (valid : Validation.issues s.catalog q = []) (valid' : Validation.issues other q = [])
    : { s with catalog := other }.stages q context cancellation
      = s.stages q context cancellation := by
  have validated : validate other q context.role = validate s.catalog q context.role := by
    simp only [validate, valid, valid']
  simp only [stages, validated, h.apply_eq, Planning.plan_reordered h, compile]

/-- A query comes to the same, or fails in the same way, over a catalog in another order. -/
theorem outcomesAlike_of_reordered {other : Catalog} (h : s.catalog.Reordered other)
    (past : List Happening)
    : OutcomesAlike (s.plan q context cancellation past).result
        ({ s with catalog := other }.plan q context cancellation past).result := by
  have alike := Validation.issues_reordered h q
  cases issues : Validation.issues s.catalog q with
  | nil =>
      rw [issues] at alike
      have valid' : Validation.issues other q = [] := List.forall₂_nil_left_iff.mp alike
      simp only [plan, prepare, stages_reordered h issues valid']
      exact .refl _
  | cons issue rest =>
      rw [issues] at alike
      obtain ⟨issue', rest', _, _, issues'⟩ := List.forall₂_cons_left_iff.mp alike
      rw [issues'] at alike
      rw [plan_of_invalid issues, plan_of_invalid (s := { s with catalog := other }) issues']
      split
      · exact .refl _
      · exact .invalid alike

/-- The order in which a document declares its databases, tables, syncs and roles does not matter.
In any other order it is accepted as well, and every query comes to the same answer, with the same
plan and the same SQL, or fails in the same way.
-/
theorem planned_alike_in_any_order {d other : Document} {c : Catalog}
    (made : Catalog.ofDocument d = .ok c) (reordered : d.Reorders other)
    : ∃ c',
        Catalog.ofDocument other = .ok c'
        ∧ ∀ s : Service,
            s.catalog = c
            → ∀ q context cancellation past,
                OutcomesAlike (s.plan q context cancellation past).result
                  ({ s with catalog := c' }.plan q context cancellation past).result := by
  obtain ⟨c', made', found⟩ := Catalog.exists_reordered made reordered
  refine ⟨c', made', ?_⟩
  rintro s rfl q context cancellation past
  exact outcomesAlike_of_reordered found past

end Service

namespace Sample

/-- The lake with its databases and its tables the other way round. -/
def turnedLakeDocument : Document :=
  { lakeDocument with
    databases := lakeDocument.databases.reverse
    tables := lakeDocument.tables.reverse }

/-- Orders that are read beside their users are read from the same copy with the same SQL when the
document is turned round.
-/
theorem turned_lake_orders_alike
    : Catalog.ofDocument lakeDocument = .ok lakeCatalog
      ∧ lakeDocument.Reorders turnedLakeDocument
      ∧ ∃ c' answer,
          Catalog.ofDocument turnedLakeDocument = .ok c'
          ∧ (lakeService.plan query context .never []).result = .ok answer
          ∧ answer.prepared.plan.route.target = "main"
          ∧ ({ lakeService with catalog := c' }.plan query context .never []).result
            = .ok answer := by
  have made : Catalog.ofDocument lakeDocument = .ok lakeCatalog := dif_pos lakeDocument_intact
  have reordered : lakeDocument.Reorders turnedLakeDocument := {
    databases := List.reverse_perm _
    tables := List.reverse_perm _
    syncs := .refl _
    roles := .refl _
    caches := rfl
    federation := rfl }
  have taken : (lakeService.plan query context .never []).result.map
      (·.prepared.plan.route.target) = .ok "main" := by
    cbv
  obtain ⟨answer, planned, target⟩ := Outcome.map_eq_ok.mp taken
  obtain ⟨c', made', alike⟩ := Service.planned_alike_in_any_order made reordered
  have same := alike lakeService rfl query context .never []
  rw [planned] at same
  refine ⟨made, reordered, c', answer, made', planned, target, ?_⟩
  cases planned' : ({ lakeService with catalog := c' }.plan query context .never []).result with
  | error failure => rw [planned'] at same; cases same
  | ok other => rw [planned'] at same; exact congrArg _ same

end Sample

end Polystore
