import Polystore.Proofs.Entries.Lookup
import Polystore.Proofs.Semantics.Evaluation

/-! Hidden rows count like absent ones. Where a join keeps only visible rows of a left-joined
table as partners, and the conditions of a statement only let visible rows of all other tables
through, the same combinations are kept as if hidden rows were not stored at all.
-/

namespace Polystore.Semantics

open Statement

variable {v : Conventions} {visible : String → Row → Bool} {outer : List String}

-----------------------------------------------------------------------------------------
-- Combinations whose inner rows are visible
-----------------------------------------------------------------------------------------

/-- Whether all rows of a combination are visible, apart from those of some tables. -/
def alive (visible : String → Row → Bool) (outer : List String) (x : Combination) : Bool :=
  x.all fun e => outer.contains e.1 || visible e.1 e.2

/-- The rows of tables that are visible. -/
def Contents.shown (contents : Contents) (visible : String → Row → Bool) : Contents :=
  fun t => (contents t).filter (visible t.apiName)

/-- A join whose own conditions, on combinations without its table, let exactly the visible rows
of that table through if it is a left join, and any row otherwise.
-/
structure Guarded (v : Conventions) (visible : String → Row → Bool) (outer : List String)
    (j : Statement.Join String)
    : Prop where
  outer : outer.contains j.table.apiName = (j.kind == .left)
  conditions
    : ∀ (x : Combination) (row : Row),
        j.table.apiName ∉ x.keys
        → meetsAll v (x ++ [(j.table.apiName, row)]) j.conditions
          = (j.kind == .inner || visible j.table.apiName row)

theorem alive_append (x : Combination) (name : String) (row : Row)
    : alive visible outer (x ++ [(name, row)])
      = (alive visible outer x && (outer.contains name || visible name row)) := by
  simp [alive, List.all_append]

/-- A combination that is joined has one table more. -/
theorem keys_of_mem_joinRows {rows : List Row} {j : Statement.Join String} {x y : Combination}
    (member : y ∈ joinRows v rows j x)
    : y.keys = x.keys ++ [j.table.apiName] := by
  have extended (row : Row)
      : Entries.keys (x ++ [(j.table.apiName, row)]) = x.keys ++ [j.table.apiName] := by
    simp [Entries.keys]
  unfold joinRows at member
  cases kind : j.kind with
  | inner =>
      simp only [kind] at member
      obtain ⟨row, _, rfl⟩ := List.mem_map.mp member
      exact extended row
  | left =>
      simp only [kind] at member
      split at member
      · rw [List.mem_singleton.mp member]
        exact extended []
      · obtain ⟨row, _, rfl⟩ := List.mem_map.mp member
        exact extended row

theorem keys_of_mem_step {rows : List Row} {j : Statement.Join String}
    {found : List Combination} {names : List String} (named : ∀ x ∈ found, x.keys = names)
    : ∀ y ∈ found.flatMap (joinRows v rows j), y.keys = names ++ [j.table.apiName] := by
  intro y member
  obtain ⟨x, hx, hy⟩ := List.mem_flatMap.mp member
  rw [keys_of_mem_joinRows hy, named x hx]

-----------------------------------------------------------------------------------------
-- One join
-----------------------------------------------------------------------------------------

/-- The combinations of one join with visible inner rows are those that the visible rows alone
give, and there are none where a row of the combination before is hidden already.
-/
theorem filter_joinRows {rows : List Row} {j : Statement.Join String} {x : Combination}
    (guarded : Guarded v visible outer j) (new : j.table.apiName ∉ x.keys)
    : (joinRows v rows j x).filter (alive visible outer)
      = if alive visible outer x then
          joinRows v (rows.filter (visible j.table.apiName)) j x
        else [] := by
  have conditions := guarded.conditions x
  cases kind : j.kind with
  | inner =>
      have inner : outer.contains j.table.apiName = false := by
        rw [guarded.outer, kind]
        rfl
      simp only [joinRows, kind, List.filter_map, Function.comp_def, alive_append, inner,
        Bool.false_or]
      cases hx : alive visible outer x with
      | true => simp only [Bool.true_and, List.filter_filter, Bool.and_comm, if_true]
      | false => simp
  | left =>
      have left : outer.contains j.table.apiName = true := by
        rw [guarded.outer, kind]
        rfl
      have same : rows.filter (fun row => links v j (x ++ [(j.table.apiName, row)]))
          = (rows.filter (visible j.table.apiName)).filter
              fun row => links v j (x ++ [(j.table.apiName, row)]) := by
        rw [List.filter_filter]
        apply List.filter_congr
        intro row _
        simp only [links, conditions row new, kind]
        cases visible j.table.apiName row <;> simp
      have unchanged (row : Row)
          : alive visible outer (x ++ [(j.table.apiName, row)]) = alive visible outer x := by
        rw [alive_append, left, Bool.true_or, Bool.and_true]
      have kept
          : joinRows v rows j x = joinRows v (rows.filter (visible j.table.apiName)) j x := by
        simp only [joinRows, kind, same]
      rw [← kept]
      have alike : ∀ y ∈ joinRows v rows j x, alive visible outer y = alive visible outer x := by
        intro y member
        simp only [joinRows, kind] at member
        split at member
        · rw [List.mem_singleton.mp member, unchanged]
        · obtain ⟨row, _, rfl⟩ := List.mem_map.mp member
          exact unchanged row
      cases hx : alive visible outer x with
      | true =>
          rw [if_pos rfl, List.filter_eq_self]
          intro y member
          rw [alike y member, hx]
      | false =>
          rw [if_neg (by simp), List.filter_eq_nil_iff]
          intro y member
          simp [alike y member, hx]

-----------------------------------------------------------------------------------------
-- A chain of joins
-----------------------------------------------------------------------------------------

/-- Over a chain of joins of distinct new tables, the combinations with visible inner rows are
those that visible rows alone give, by induction on the joins.
-/
theorem filter_joinAll {contents : Contents} {joins : List (Statement.Join String)}
    {found : List Combination} {names : List String}
    (guarded : ∀ j ∈ joins, Guarded v visible outer j)
    (named : ∀ x ∈ found, x.keys = names)
    (distinct : (names ++ joins.map (·.table.apiName)).Nodup)
    : (joinAll v contents joins found).filter (alive visible outer)
      = joinAll v (contents.shown visible) joins (found.filter (alive visible outer)) := by
  induction joins generalizing found names with
  | nil => rfl
  | cons j rest ih =>
      have new : j.table.apiName ∉ names := by
        intro member
        exact List.disjoint_of_nodup_append distinct member (by simp)
      have here := guarded j (by simp)
      rw [joinAll, joinAll,
        ih (fun other member => guarded other (List.mem_cons_of_mem _ member))
          (keys_of_mem_step named) (by simpa using distinct)]
      congr 1
      rw [List.filter_flatMap]
      clear ih
      induction found with
      | nil => rfl
      | cons x others ihFound =>
          have newHere : j.table.apiName ∉ x.keys := by
            rw [named x (by simp)]
            exact new
          rw [List.flatMap_cons, filter_joinRows here newHere,
            ihFound fun y member => named y (List.mem_cons_of_mem _ member), List.filter_cons]
          cases alive visible outer x <;> simp [Contents.shown]

/-- The tables of combined rows, in the order of the joins. -/
theorem keys_of_mem_joinAll {contents : Contents} {joins : List (Statement.Join String)}
    {found : List Combination} {names : List String} (named : ∀ x ∈ found, x.keys = names)
    {y : Combination} (member : y ∈ joinAll v contents joins found)
    : y.keys = names ++ joins.map (·.table.apiName) := by
  induction joins generalizing found names with
  | nil => simpa using named y member
  | cons j rest ih =>
      simpa using ih (keys_of_mem_step named) member

-----------------------------------------------------------------------------------------
-- Statements
-----------------------------------------------------------------------------------------

/-- A statement that shows visible rows only: its joins are guarded, and its conditions let no
combination with a hidden inner row through.
-/
structure Shielded (v : Conventions) (visible : String → Row → Bool) (outer : List String)
    (s : Statement String)
    : Prop where
  distinct : (s.table.apiName :: s.joins.map (·.table.apiName)).Nodup
  first : outer.contains s.table.apiName = false
  joins : ∀ j ∈ s.joins, Guarded v visible outer j
  conditions
    : ∀ x : Combination,
        x.keys = s.table.apiName :: s.joins.map (·.table.apiName)
        → meetsAll v x s.conditions = true
        → alive visible outer x = true

/-- A statement that shows visible rows only keeps the same combinations as over these rows. -/
theorem kept_shown {s : Statement String} (shielded : Shielded v visible outer s)
    (contents : Contents)
    : kept v s contents = kept v s (contents.shown visible) := by
  have named (contents : Contents)
      : ∀ x ∈ (contents s.table).map fun row => [(s.table.apiName, row)],
          Entries.keys x = [s.table.apiName] := by
    intro x member
    obtain ⟨row, _, rfl⟩ := List.mem_map.mp member
    rfl
  have onlyAlive (contents : Contents)
      : kept v s contents
        = ((joinAll v contents s.joins
              ((contents s.table).map fun row => [(s.table.apiName, row)])).filter
            (alive visible outer)).filter fun x => meetsAll v x s.conditions := by
    rw [kept, List.filter_filter]
    apply List.filter_congr
    intro x member
    cases met : meetsAll v x s.conditions with
    | true => rw [shielded.conditions x (keys_of_mem_joinAll (named contents) member) met]; rfl
    | false => rfl
  have firstShown
      : ((contents s.table).map fun row => [(s.table.apiName, row)]).filter
          (alive visible outer)
        = ((contents.shown visible) s.table).map fun row => [(s.table.apiName, row)] := by
    rw [List.filter_map, Contents.shown]
    congr 1
    apply List.filter_congr
    intro row _
    simp only [Function.comp_apply, alive, List.all_cons, List.all_nil, shielded.first,
      Bool.false_or, Bool.and_true]
  rw [onlyAlive, filter_joinAll shielded.joins (named contents) shielded.distinct, firstShown]
  rfl

end Polystore.Semantics
