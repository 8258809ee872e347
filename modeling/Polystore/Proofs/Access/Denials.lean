import Polystore.Proofs.Access.Granting
import Polystore.Proofs.Validation.Acceptance

/-! Why access control does not let a query through. Of an accepted query every column that the
caller names is of a touched table, so that the allowed columns of its table are always known; what
is left are tables and columns that the role may not see, and values that the context lacks.
-/

namespace Polystore.Access

open Outcome

variable {c : Catalog} {q : Query} {context : Context} {reason : Failure → Prop}

/-- The refusals of access control: a table without a rule, a column that its rule does not allow,
and a row rule whose value is not in the context.
-/
inductive Denied (q : Query) (context : Context) : Failure → Prop where
  | table {name : String}
    : name ∈ q.tableNames → Denied q context (.refused (.tableDenied context.role name))
  | column {ref : ColumnRef} {allowed : List String}
    : ref ∈ referencedColumns q → ref.column ∉ allowed
      → Denied q context (.refused (.columnDenied context.role ref.table ref.column allowed))
  | context {name column key : String}
    : name ∈ q.tableNames → context.values.cell key = .null
      → Denied q context (.refused (.missingContext name column key))

/-- A column that the caller of an accepted query names is of a touched table. -/
theorem table_mem_of_referenced (h : Validation.Accepted c q) {ref : ColumnRef}
    (member : ref ∈ referencedColumns q)
    : ref.table ∈ q.tableNames := by
  have referred {reference : String}
      (refers : ∃ column, Validation.RefersTo c q reference column)
      : (q.ref reference).table ∈ q.tableNames := by
    obtain ⟨column, touched, _⟩ := refers
    exact touched
  simp only [referencedColumns, Query.namedColumns, List.mem_append, List.mem_map,
    List.mem_flatMap, List.mem_filter, List.mem_filterMap] at member
  rcases member with ((((⟨reference, own, rfl⟩ | ⟨j, hj, name, _, rfl⟩) | ⟨f, hf, rfl⟩)
    | ⟨o, ⟨ho, column⟩, rfl⟩) | ⟨g, hg, rfl⟩) | ⟨reference, ⟨⟨a, ha, named⟩, _⟩, rfl⟩
  · exact referred (h.columns reference own)
  · exact h.joined_mem hj
  · obtain ⟨column, refers, _⟩ := h.filters f hf
    exact refers.1
  · exact referred (h.order o ho (by simpa using column))
  · exact referred (h.groups g hg)
  · exact referred (h.aggregates a ha reference named)

/-- Rules are not found only for a table without one, by induction on the names. -/
theorem failsOnly_rules {names : List String} (members : ∀ name ∈ names, name ∈ q.tableNames)
    : FailsOnly (Denied q context) (rules c context.role names).result := by
  induction names with
  | nil => exact failsOnly_ok _
  | cons name rest ih =>
      have denied : FailsOnly (Denied q context) (rules.denied context.role name).result := by
        simp only [rules.denied, Traced.result_bind, Traced.result_note, Outcome.ok_bind]
        exact failsOnly_error (.table (members name (List.mem_cons_self ..)))
      unfold rules
      split
      · exact denied
      · split
        · exact denied
        · rw [Traced.result_bind]
          have behind := ih fun other member => members other (List.mem_cons_of_mem _ member)
          exact behind.bind fun _ _ => failsOnly_ok _

/-- Columns of tables whose allowed columns are known are refused only where these lack them, by
induction on the columns.
-/
theorem failsOnly_checkColumns {allowed : Entries String (List String)} {refs : List ColumnRef}
    (known : ∀ ref ∈ refs, ref.table ∈ allowed.keys)
    (members : ∀ ref ∈ refs, ref ∈ referencedColumns q)
    : FailsOnly (Denied q context) (checkColumns context.role allowed refs).result := by
  induction refs with
  | nil => exact failsOnly_ok _
  | cons ref rest ih =>
      obtain ⟨names, found⟩ := Entries.lookup_of_mem_keys (known ref (List.mem_cons_self ..))
      simp only [checkColumns, found]
      split
      · exact ih (fun other member => known other (List.mem_cons_of_mem _ member))
          fun other member => members other (List.mem_cons_of_mem _ member)
      next denied =>
        simp only [Traced.result_bind, Traced.result_note, Outcome.ok_bind]
        exact failsOnly_error
          (.column (members ref (List.mem_cons_self ..)) (by simpa using denied))

/-- Row rules set no conditions only where one lacks its value, by induction on the rules. -/
theorem failsOnly_conditions {name : String} (touched : name ∈ q.tableNames) (rules : List RowRule)
    : FailsOnly (fun r => Denied q context (.refused r)) (conditions name context rules) := by
  induction rules with
  | nil => exact failsOnly_ok _
  | cons rule rest ih =>
      refine FailsOnly.bind ?_ fun _ _ => ih.bind fun _ _ => failsOnly_ok _
      unfold condition
      dsimp only
      split
      · exact failsOnly_ok _
      · split
        next none => exact failsOnly_error (.context touched none)
        · exact failsOnly_ok _

/-- Scopes are made unless a row rule of a touched table lacks its value, by induction on the
tables.
-/
theorem failsOnly_scopes {found : Entries String (Table × TableRule)}
    (members : ∀ name ∈ found.keys, name ∈ q.tableNames)
    : FailsOnly (Denied q context) (scopes context found).result := by
  induction found with
  | nil => exact failsOnly_ok _
  | cons e rest ih =>
      obtain ⟨name, t, rule⟩ := e
      have here : FailsOnly (fun r => Denied q context (.refused r))
          (conditions name context rule.rows) :=
        failsOnly_conditions (members name (List.mem_cons_self ..)) rule.rows
      have behind := ih fun other member => members other (List.mem_cons_of_mem _ member)
      unfold scopes
      split
      next r failed => exact failsOnly_error (here r failed)
      next rows _ =>
        simp only [Traced.result_bind]
        refine (failsOnly_of_exists ⟨(), Traced.result_forM rows _ fun _ => rfl⟩).bind fun _ _ => ?_
        exact behind.bind fun _ _ => failsOnly_ok _

/-- An accepted query is not let through only where the role may not see all that it touches or
names, or a row rule lacks its value.
-/
theorem failsOnly_apply (h : Validation.Accepted c q)
    : FailsOnly (Denied q context) (apply c q context).result := by
  simp only [apply, Traced.result_bind, Traced.result_note, Outcome.ok_bind]
  refine (failsOnly_rules fun _ member => member).bind fun found hfound => ?_
  have keys : found.keys = q.tableNames :=
    Entries.keys_of_forall₂ (R := fun name e => c.table? name = some e.2.1 ∧ _) (rules_eq_ok hfound)
  refine FailsOnly.bind (failsOnly_checkColumns ?_ fun _ member => member) fun _ _ => ?_
  · intro ref member
    have touched := table_mem_of_referenced h member
    rw [← keys] at touched
    simpa [Entries.keys] using touched
  · refine (failsOnly_scopes ?_).bind fun _ _ => failsOnly_ok _
    rw [keys]
    exact fun _ member => member

end Polystore.Access
