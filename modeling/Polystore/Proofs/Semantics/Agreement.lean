import Mathlib.Data.List.Forall2
import Polystore.Proofs.Semantics.Evaluation

/-! Statements see no more of stored rows than the columns they name. Rows that agree on the
observed columns are combined alike, and a statement whose columns are all observed comes to
the same result over them.
-/

namespace Polystore.Semantics

open Statement

variable {v : Conventions} {observed : ColumnName String → Prop}

-----------------------------------------------------------------------------------------
-- Rows and combinations that agree
-----------------------------------------------------------------------------------------

/-- Rows of a table that have the same values in its observed columns. -/
def AgreeOn (observed : ColumnName String → Prop) (name : String) (left right : Row) : Prop :=
  ∀ column,
    column.table = name
    → observed column
    → left.cell column.physicalName = right.cell column.physicalName

/-- Combinations of rows of the same tables that agree table by table. -/
def Alike (observed : ColumnName String → Prop) (x y : Combination) : Prop :=
  List.Forall₂ (fun e f => e.1 = f.1 ∧ AgreeOn observed e.1 e.2 f.2) x y

/-- Alike combinations have the same value in an observed column, by induction on them. -/
theorem Alike.value_eq {x y : Combination} (alike : Alike observed x y)
    {column : ColumnName String} (seen : observed column)
    : x.value column = y.value column := by
  unfold Combination.value
  induction alike with
  | nil => rfl
  | @cons e f _ _ head _ ih =>
      obtain ⟨name, row⟩ := e
      obtain ⟨other, row'⟩ := f
      obtain ⟨same, agree⟩ := head
      cases same
      rw [List.lookup_cons, List.lookup_cons]
      cases here : column.table == name with
      | true => exact agree column (eq_of_beq here) seen
      | false => exact ih

theorem Alike.meetsAll_eq {x y : Combination} (alike : Alike observed x y)
    {conditions : List (Condition (ColumnName String))} (seen : ∀ f ∈ conditions, observed f.column)
    : meetsAll v x conditions = meetsAll v y conditions := by
  unfold meetsAll
  rw [Bool.eq_iff_iff, List.all_eq_true, List.all_eq_true]
  refine forall₂_congr fun f member => ?_
  rw [alike.value_eq (seen f member)]

-----------------------------------------------------------------------------------------
-- Joins
-----------------------------------------------------------------------------------------

/-- A join whose columns are all observed. -/
structure JoinSeen (observed : ColumnName String → Prop) (j : Statement.Join String) : Prop where
  left : observed j.left
  right : observed j.right
  conditions : ∀ f ∈ j.conditions, observed f.column

theorem Alike.append {x y : Combination} (alike : Alike observed x y) {name : String}
    {row row' : Row} (agree : AgreeOn observed name row row')
    : Alike observed (x ++ [(name, row)]) (y ++ [(name, row')]) :=
  List.rel_append alike (.cons ⟨rfl, agree⟩ .nil)

/-- A join links agreeing rows to alike combinations alike. -/
theorem alike_joinRows {j : Statement.Join String} (seen : JoinSeen observed j)
    {rows rows' : List Row} (agree : List.Forall₂ (AgreeOn observed j.table.apiName) rows rows')
    {x y : Combination} (alike : Alike observed x y)
    : List.Forall₂ (Alike observed) (joinRows v rows j x) (joinRows v rows' j y) := by
  have linked
      : List.Forall₂ (AgreeOn observed j.table.apiName)
          (rows.filter fun row => links v j (x ++ [(j.table.apiName, row)]))
          (rows'.filter fun row => links v j (y ++ [(j.table.apiName, row)])) := by
    refine List.rel_filter ?_ agree
    intro row row' same
    have extended := alike.append same
    simp only [links, extended.value_eq seen.left, extended.value_eq seen.right,
      extended.meetsAll_eq seen.conditions]
  have extended
      : List.Forall₂ (Alike observed)
          ((rows.filter fun row => links v j (x ++ [(j.table.apiName, row)])).map fun row =>
            x ++ [(j.table.apiName, row)])
          ((rows'.filter fun row => links v j (y ++ [(j.table.apiName, row)])).map fun row =>
            y ++ [(j.table.apiName, row)]) :=
    List.rel_map (fun _ _ same => alike.append same) linked
  cases kind : j.kind with
  | inner => simpa only [joinRows, kind] using extended
  | left =>
      have empty
          : (rows.filter fun row => links v j (x ++ [(j.table.apiName, row)])).isEmpty
            = (rows'.filter fun row => links v j (y ++ [(j.table.apiName, row)])).isEmpty := by
        rw [Bool.eq_iff_iff, List.isEmpty_iff_length_eq_zero, List.isEmpty_iff_length_eq_zero,
          linked.length_eq]
      simp only [joinRows, kind, empty]
      split
      · exact .cons (alike.append fun _ _ _ => rfl) .nil
      · exact extended

/-- A chain of joins combines agreeing rows alike, by induction on the joins. -/
theorem alike_joinAll {contents contents' : Contents} {joins : List (Statement.Join String)}
    (seen : ∀ j ∈ joins, JoinSeen observed j)
    (agree
      : ∀ j ∈ joins,
          List.Forall₂ (AgreeOn observed j.table.apiName) (contents j.table) (contents' j.table))
    {found found' : List Combination} (alike : List.Forall₂ (Alike observed) found found')
    : List.Forall₂ (Alike observed) (joinAll v contents joins found)
        (joinAll v contents' joins found') := by
  induction joins generalizing found found' with
  | nil => exact alike
  | cons j rest ih =>
      refine ih (fun other member => seen other (List.mem_cons_of_mem _ member))
        (fun other member => agree other (List.mem_cons_of_mem _ member)) ?_
      exact List.rel_flatMap alike fun _ _ same =>
        alike_joinRows (seen j (by simp)) (agree j (by simp)) same

-----------------------------------------------------------------------------------------
-- Results
-----------------------------------------------------------------------------------------

/-- A statement whose columns are all observed. -/
structure Seen (observed : ColumnName String → Prop) (s : Statement String) : Prop where
  joins : ∀ j ∈ s.joins, JoinSeen observed j
  conditions : ∀ f ∈ s.conditions, observed f.column
  columns : ∀ column ∈ s.columns, observed column
  groups : ∀ g ∈ s.groupBy, observed g.column
  aggregates : ∀ a ∈ s.aggregates, ∀ column, a.column = some column → observed column
  having : ∀ h ∈ s.having, ∀ column, h.aggregate.column = some column → observed column
  order
    : ∀ o ∈ s.orderBy,
        ∀ column granularity, o.key = .column column granularity → observed column

/-- The same combinations are kept of agreeing rows. -/
theorem alike_kept {s : Statement String} (seen : Seen observed s)
    {contents contents' : Contents}
    (agree
      : ∀ t ∈ s.table :: s.joins.map (·.table),
          List.Forall₂ (AgreeOn observed t.apiName) (contents t) (contents' t))
    : List.Forall₂ (Alike observed) (kept v s contents) (kept v s contents') := by
  refine List.rel_filter (fun x y alike => ?_) (alike_joinAll seen.joins (fun j member => ?_) ?_)
  · simp only [alike.meetsAll_eq seen.conditions]
  · exact agree _ (List.mem_cons_of_mem _ (List.mem_map.mpr ⟨j, member, rfl⟩))
  · exact List.rel_map (fun _ _ same => .cons ⟨rfl, same⟩ .nil) (agree s.table (by simp))

/-- Alike combinations contribute the same. -/
theorem Alike.contribution_eq {s : Statement String} (seen : Seen observed s)
    {x y : Combination} (alike : Alike observed x y)
    : contribution v s x = contribution v s y := by
  have argument {column : Option (ColumnName String)}
      (seen : ∀ name, column = some name → observed name)
      : column.map x.value = column.map y.value := by
    cases column with
    | none => rfl
    | some name => exact congrArg some (alike.value_eq (seen name rfl))
  simp only [contribution, Contribution.mk.injEq]
  refine ⟨?_, ?_, ?_, ?_, ?_⟩ <;> apply List.map_congr_left
  · exact fun column member => alike.value_eq (seen.columns column member)
  · exact fun g member => by rw [alike.value_eq (seen.groups g member)]
  · exact fun a member => argument (seen.aggregates a member)
  · exact fun h member => argument (seen.having h member)
  · intro o member
    cases key : o.key with
    | column column granularity =>
        simp only [alike.value_eq (seen.order o member column granularity key)]
    | _ => rfl

/-- A statement comes to the same result over rows that agree on what it sees. -/
theorem contributions_eq {s : Statement String} (seen : Seen observed s)
    {contents contents' : Contents}
    (agree
      : ∀ t ∈ s.table :: s.joins.map (·.table),
          List.Forall₂ (AgreeOn observed t.apiName) (contents t) (contents' t))
    : (kept v s contents).map (contribution v s) = (kept v s contents').map (contribution v s) := by
  have alike := alike_kept (v := v) seen agree
  rw [← List.forall₂_eq_eq_eq, List.forall₂_map_left_iff, List.forall₂_map_right_iff]
  exact alike.imp fun _ _ same => same.contribution_eq seen

end Polystore.Semantics
