import Polystore.Proofs.Entries.Lookup
import Polystore.Proofs.Semantics.Visibility

/-! Chains of left joins. Each join of a chain extends every combination that it is given, by rows
that it looks for or by an empty one exactly where there is none, so that a statement keeps all rows
of its first table that meet conditions on that table.
-/

namespace Polystore.Semantics

open Statement

variable {v : Conventions} {contents : Contents} {rows : List Row} {j : Statement.Join String}
  {joins : List (Statement.Join String)} {x y : Combination}

-----------------------------------------------------------------------------------------
-- Combinations that grow
-----------------------------------------------------------------------------------------

/-- A combination that grows keeps its values. -/
theorem value_append {more : Combination} {column : ColumnName String}
    (known : column.table ∈ x.keys)
    : Combination.value (x ++ more) column = x.value column := by
  rw [Combination.value, Combination.value, Entries.lookup_append_of_mem known]

-----------------------------------------------------------------------------------------
-- One left join
-----------------------------------------------------------------------------------------

/-- A left join to a column of its own table, under conditions on that table only. -/
structure LeftJoin (j : Statement.Join String) : Prop where
  kind : j.kind = .left
  right : j.right.table = j.table.apiName
  conditions : ∀ f ∈ j.conditions, f.column.table = j.table.apiName

/-- Whether a row of its table is what a join looks for, given a combination. -/
def fits (v : Conventions) (j : Statement.Join String) (x : Combination) (row : Row) : Bool :=
  v.meets (.known .equal) (x.value j.left) (row.cell j.right.physicalName)
  && meetsOwn v j.conditions row

/-- A left join links the rows that it looks for. -/
theorem LeftJoin.links_eq (h : LeftJoin j) (new : j.table.apiName ∉ x.keys)
    (known : j.left.table ∈ x.keys) (row : Row)
    : links v j (x ++ [(j.table.apiName, row)]) = fits v j x row := by
  have found : (x ++ [(j.table.apiName, row)]).lookup j.table.apiName = some row :=
    Entries.lookup_append_new new
  have right
      : Combination.value (x ++ [(j.table.apiName, row)]) j.right
        = row.cell j.right.physicalName := by
    rw [Combination.value, h.right, found, Option.getD_some]
  rw [links, fits, value_append known, right, meetsAll_eq_meetsOwn h.conditions found]

/-- Whether a combination has a row that a join looks for, or an empty one where there is none. -/
def Partnered (v : Conventions) (rows : List Row) (j : Statement.Join String) (x : Combination)
    : Prop :=
  ∃ part,
    x.lookup j.table.apiName = some part
    ∧ (part ∈ rows.filter (fits v j x) ∨ (rows.filter (fits v j x) = [] ∧ part = []))

/-- A left join extends a combination at least once, each time by a row that it looks for or by the
empty one.
-/
theorem LeftJoin.joinRows_eq (h : LeftJoin j) (new : j.table.apiName ∉ x.keys)
    (known : j.left.table ∈ x.keys)
    : ∃ parts,
        parts ≠ []
        ∧ joinRows v rows j x = parts.map (fun part => x ++ [(j.table.apiName, part)])
        ∧ ∀ part ∈ parts,
            part ∈ rows.filter (fits v j x) ∨ (rows.filter (fits v j x) = [] ∧ part = []) := by
  have linked
      : rows.filter (fun row => links v j (x ++ [(j.table.apiName, row)]))
        = rows.filter (fits v j x) :=
    List.filter_congr fun row _ => h.links_eq new known row
  simp only [joinRows, h.kind, linked]
  split
  next none =>
    rw [List.isEmpty_iff] at none
    exact ⟨[[]], List.cons_ne_nil _ _, rfl, by simp [none]⟩
  next some =>
    rw [List.isEmpty_iff] at some
    exact ⟨_, some, rfl, fun part member => .inl member⟩

-----------------------------------------------------------------------------------------
-- Chains of left joins
-----------------------------------------------------------------------------------------

/-- Left joins each of which adds a new table from one that is there before it. -/
def Chained : List String → List (Statement.Join String) → Prop
  | _, [] => True
  | names, j :: rest =>
      LeftJoin j ∧ j.table.apiName ∉ names ∧ j.left.table ∈ names
      ∧ Chained (names ++ [j.table.apiName]) rest

/-- Joins extend combinations one by one, by induction on the joins. -/
theorem joinAll_eq_flatMap (found : List Combination)
    : joinAll v contents joins found = found.flatMap fun x => joinAll v contents joins [x] := by
  induction joins generalizing found with
  | nil => simp [joinAll]
  | cons j rest ih =>
      simp only [joinAll, List.flatMap_singleton]
      rw [ih, List.flatMap_assoc]
      exact List.flatMap_congr fun x _ => (ih _).symm

/-- What a chain of left joins makes of a combination extends it, and has a partner for every join,
by induction on the joins: later ones leave the parts before them as they are.
-/
theorem Chained.partnered {names : List String} (h : Chained names joins) (named : x.keys = names)
    (member : y ∈ joinAll v contents joins [x])
    : (∃ more, y = x ++ more) ∧ ∀ j ∈ joins, Partnered v (contents j.table) j y := by
  induction joins generalizing names x with
  | nil => exact ⟨⟨[], by simpa [joinAll] using member⟩, by simp⟩
  | cons j rest ih =>
      obtain ⟨left, new, known, later⟩ := h
      subst named
      rw [joinAll, List.flatMap_singleton, joinAll_eq_flatMap, List.mem_flatMap] at member
      obtain ⟨z, here, behind⟩ := member
      obtain ⟨parts, _, joined, each⟩ := left.joinRows_eq (v := v) new known
      rw [joined] at here
      obtain ⟨part, listed, rfl⟩ := List.mem_map.mp here
      obtain ⟨⟨more, rfl⟩, others⟩ := ih later (by simp [Entries.keys]) behind
      refine ⟨⟨_, List.append_assoc ..⟩, fun other hother => ?_⟩
      rcases List.mem_cons.mp hother with rfl | hother
      · refine ⟨part, ?_, ?_⟩
        · rw [Entries.lookup_append_of_mem (by simp [Entries.keys]), Entries.lookup_append_new new]
        · have same
              : fits v other (x ++ [(other.table.apiName, part)] ++ more) = fits v other x := by
            funext row
            rw [fits, List.append_assoc, value_append known, fits]
          rw [same]
          exact each part listed
      · exact others other hother

/-- A chain of left joins loses no combination, by induction on the joins. -/
theorem Chained.joinAll_ne_nil {names : List String} (h : Chained names joins)
    (named : x.keys = names)
    : joinAll v contents joins [x] ≠ [] := by
  induction joins generalizing names x with
  | nil => simp [joinAll]
  | cons j rest ih =>
      obtain ⟨left, new, known, later⟩ := h
      subst named
      obtain ⟨parts, some, joined, _⟩ := left.joinRows_eq (v := v) new known
      obtain ⟨part, others, rfl⟩ := List.exists_cons_of_ne_nil some
      rw [joinAll, List.flatMap_singleton, joined, joinAll_eq_flatMap, List.map_cons,
        List.flatMap_cons]
      exact List.append_ne_nil_of_left_ne_nil (ih later (by simp [Entries.keys])) _

-----------------------------------------------------------------------------------------
-- Statements that start from a table
-----------------------------------------------------------------------------------------

/-- A statement whose joins are a chain of left joins and whose conditions are on its first table
keeps, for the rows of that table which meet them, all that the joins make of each.
-/
theorem kept_eq_flatMap {s : Statement String} (chained : Chained [s.table.apiName] s.joins)
    (own : ∀ f ∈ s.conditions, f.column.table = s.table.apiName) (contents : Contents)
    : kept v s contents
      = ((contents s.table).filter (meetsOwn v s.conditions)).flatMap fun row =>
          joinAll v contents s.joins [[(s.table.apiName, row)]] := by
  have met (row : Row) {y : Combination}
      (member : y ∈ joinAll v contents s.joins [[(s.table.apiName, row)]])
      : meetsAll v y s.conditions = meetsOwn v s.conditions row := by
    obtain ⟨⟨more, rfl⟩, _⟩ := chained.partnered rfl member
    exact meetsAll_eq_meetsOwn own (by simp)
  rw [kept, joinAll_eq_flatMap, List.flatMap_map]
  induction contents s.table with
  | nil => rfl
  | cons row rest ih =>
      rw [List.flatMap_cons, List.filter_append, ih, List.filter_cons]
      have here := filter_eq_ite fun y member => met row member
      rw [here]
      cases meetsOwn v s.conditions row <;> simp

end Polystore.Semantics
