import Polystore.Vocabulary

/-!
The operators of filters. Row rules use some of them, and predicates on aggregates only the
comparisons.
-/

namespace Polystore

inductive Operator where
  | equal
  | differ
  | greater
  | less
  | atLeast
  | atMost
  | among
  | like
  | isNull
  | isNotNull
  deriving DecidableEq, Inhabited

namespace Operator

instance : Vocabulary Operator where
  members := [equal, differ, greater, less, atLeast, atMost, among, like, isNull, isNotNull]
  name
    | equal => "="
    | differ => "!="
    | greater => ">"
    | less => "<"
    | atLeast => ">="
    | atMost => "<="
    | among => "in"
    | like => "like"
    | isNull => "is_null"
    | isNotNull => "is_not_null"

def name (op : Operator) : String := Vocabulary.name op

/-- Whether the operator takes no value. -/
def isNullCheck : Operator → Bool
  | isNull | isNotNull => true
  | _ => false

end Operator

/-- The operators of row rules. -/
inductive RowOperator where
  | equal
  | among
  | differ
  | isNull
  | isNotNull
  deriving DecidableEq, Inhabited

namespace RowOperator

def toOperator : RowOperator → Operator
  | equal => .equal
  | among => .among
  | differ => .differ
  | isNull => .isNull
  | isNotNull => .isNotNull

instance : Vocabulary RowOperator where
  members := [equal, among, differ, isNull, isNotNull]
  name op := op.toOperator.name

def name (op : RowOperator) : String := op.toOperator.name

end RowOperator

/-- The operators between an aggregate and a value. -/
inductive Comparison where
  | equal
  | differ
  | greater
  | less
  | atLeast
  | atMost
  deriving DecidableEq, Inhabited

namespace Comparison

def toOperator : Comparison → Operator
  | equal => .equal
  | differ => .differ
  | greater => .greater
  | less => .less
  | atLeast => .atLeast
  | atMost => .atMost

instance : Vocabulary Comparison where
  members := [equal, differ, greater, less, atLeast, atMost]
  name op := op.toOperator.name

end Comparison

end Polystore
