import Polystore.Proofs.Semantics.Evaluation
import Polystore.Proofs.Statement.Placement

/-! Which stored rows of a table a role may see. The conditions of row rules are met by a
combination exactly when its row of their table is visible.
-/

namespace Polystore.Semantics

open Statement

variable {v : Conventions} {c : Catalog} {context : Context} {name : String} {x : Combination}
  {row : Row}

-----------------------------------------------------------------------------------------
-- Conditions on one table
-----------------------------------------------------------------------------------------

/-- Whether a row meets conditions on its columns. -/
def meetsOwn (v : Conventions) (conditions : List (Condition (ColumnName String))) (row : Row)
    : Bool :=
  conditions.all fun f => v.meets f.op (row.cell f.column.physicalName) f.value

theorem meetsOwn_append (some more : List (Condition (ColumnName String)))
    : meetsOwn v (some ++ more) row = (meetsOwn v some row && meetsOwn v more row) :=
  List.all_append

/-- A combination meets conditions on one table exactly when its row of the table does. -/
theorem meetsAll_eq_meetsOwn {conditions : List (Condition (ColumnName String))}
    (own : ∀ f ∈ conditions, f.column.table = name) (found : x.lookup name = some row)
    : meetsAll v x conditions = meetsOwn v conditions row := by
  rw [meetsAll, meetsOwn, Bool.eq_iff_iff, List.all_eq_true, List.all_eq_true]
  refine forall₂_congr fun f member => ?_
  rw [Combination.value, own f member, found, Option.getD_some]

-----------------------------------------------------------------------------------------
-- Row rules
-----------------------------------------------------------------------------------------

/-- Whether a stored row of a table passes every row rule that the role has for the table. -/
def visible (v : Conventions) (c : Catalog) (context : Context) (name : String) (row : Row)
    : Bool :=
  (c.rowConditions context name).all fun f =>
    v.meets f.op (row.cell (c.columnName f.column).physicalName) f.value

/-- The conditions that row rules set on a table are on its columns. -/
theorem table_of_mem_rowConditions {f : Condition (ColumnName String)}
    (member : f ∈ (c.rowConditions context name).map c.conditionNamed)
    : f.column.table = name := by
  obtain ⟨rule, hrule, rfl⟩ := List.mem_map.mp member
  exact (of_mem_rowConditions hrule).2

theorem meetsOwn_rowConditions
    : meetsOwn v ((c.rowConditions context name).map c.conditionNamed) row
      = visible v c context name row := by
  rw [meetsOwn, List.all_map]
  rfl

/-- The conditions that row rules set on a table are met by a combination exactly when its row of
the table is visible.
-/
theorem meetsAll_rowConditions (found : x.lookup name = some row)
    : meetsAll v x ((c.rowConditions context name).map c.conditionNamed)
      = visible v c context name row := by
  rw [meetsAll_eq_meetsOwn (fun _ => table_of_mem_rowConditions) found, meetsOwn_rowConditions]

end Polystore.Semantics
