import Polystore.Fault
import Polystore.Operator
import Polystore.Query.ColumnRef
import Polystore.Value.Equality

/-!
Conditions: an operator between a column and a value, with where it comes from. On a single row at
hand only equality, membership and null checks can be decided; a null meets none but a null check.
-/

namespace Polystore

/-- Where a condition comes from: a filter of the caller, a row rule, or a look-up by ids. -/
inductive Source where
  | caller
  | rowRule
  | ids
  deriving DecidableEq, Inhabited

namespace Source

instance : Vocabulary Source where
  members := [caller, rowRule, ids]
  name
    | caller => "user"
    | rowRule => "rls"
    | ids => "by_ids"

end Source

/-- A condition on a column of some kind. -/
structure Condition (κ : Type) where
  column : κ
  op : Named Operator
  value : Value
  source : Source

namespace Condition

/-- The same condition on what the column stands for. -/
def on {κ μ : Type} (c : Condition κ) (column : μ) : Condition μ := { c with column }

end Condition

namespace Operator

/-- Whether a value meets an operator and another value. Operators that need an order or a
pattern are not decided here and count as not met. -/
def test (op : Named Operator) (actual value : Value) : Except Fault Bool :=
  match op with
  | .known .isNull => .ok actual.isNull
  | .known .isNotNull => .ok !actual.isNull
  | .known .equal => .ok (!actual.isNull && actual.equals value)
  | .known .differ => .ok (!actual.isNull && !actual.equals value)
  | .known .among =>
    if actual.isNull then .ok false
    else
      match value.elements? with
      | some values => .ok (actual.isAmong values)
      | none => .error .noElements
  | _ => .ok false

end Operator

namespace Row

/-- Whether a row meets conditions on its columns. The first one that it does not meet settles
the matter. -/
def meets (row : Row) : List (Condition ColumnRef) → Except Fault Bool
  | [] => .ok true
  | c :: rest =>
    match Operator.test c.op (row.cell c.column.column) c.value with
    | .error fault => .error fault
    | .ok true => meets row rest
    | .ok false => .ok false

/-- Whether a row has a value, perhaps null, for every column of some conditions. -/
def covers (row : Row) (conditions : List (Condition ColumnRef)) : Bool :=
  conditions.all fun c => row.has c.column.column

end Row

end Polystore
