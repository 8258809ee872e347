import Polystore.Metadata.Document
import Polystore.Order

/-!
Which operators a column of each type admits: ordered types all but patterns, text patterns but no
order, identifiers and truth values less, documents only null checks.
-/

namespace Polystore.ColumnType

/-- Whether filters on a column of the type may use an operator. -/
def admits (t : ColumnType) (op : Operator) : Bool :=
  op.isNullCheck || match op with
    | .equal | .differ => t != json
    | .greater | .less | .atLeast | .atMost => t.isNumeric || t.isTemporal
    | .among => t != json && t != bool
    | .like => t == string
    | .isNull | .isNotNull => true

/-- The names of the operators of the type, in order. -/
def operatorNames (t : ColumnType) : List String :=
  sorted ((Vocabulary.members.filter t.admits).map Operator.name)

end Polystore.ColumnType
