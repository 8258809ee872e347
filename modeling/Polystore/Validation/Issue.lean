import Polystore.Decoding.Issue
import Polystore.Metadata.Record
import Polystore.Query.Basic
import Polystore.Validation.Operators

/-!
Issues of queries. An issue says which part of a query it is about; its complaint determines the
code, the message, what was expected and what was received.
-/

namespace Polystore.Validation

inductive Code where
  | unknownTable
  | unknownColumn
  | invalidJoin
  | invalidOperator
  | invalidQuery
  deriving DecidableEq

namespace Code

def name : Code → String
  | unknownTable => "UNKNOWN_TABLE"
  | unknownColumn => "UNKNOWN_COLUMN"
  | invalidJoin => "INVALID_JOIN"
  | invalidOperator => "INVALID_OPERATOR"
  | invalidQuery => "INVALID_QUERY"

end Code

/-- What is wrong with a part of a query. -/
inductive Complaint where
  | malformed (complaint : Decoding.Complaint) (received : Value)
  | unknownTable (name : String) (known : List String)
  | foreignTable (name : String) (tables : List String)
  | unknownColumn (column table : String) (columns : List String)
  | repeatedJoin (table : String)
  | sourceNotJoined (source : String) (joined : List String)
  | unrelated (source table : String) (related : List String)
  | operator (op : Operator) (type : ColumnType) (column : String)
  | noList (column : String) (received : Value)
  | noValue (op : Operator) (column : String)
  | noScalar (op : Operator) (column : String) (received : Value)
  | noIds
  | noSingleKey (table : String) (key : List String)
  | aggregateCount
  | granularity (column : String) (type : ColumnType)
  | repeatedLabel (label : String)
  | noAggregateColumn (fn : AggregateFn)
  | aggregateType (fn : AggregateFn) (column : String) (type : ColumnType)
  | ungrouped (column : String) (grouped : List String)
  | joinedColumns (columns : List String)
  | unknownLabel (label : String) (labels : List String)
  | limit (received : Int)
  | offset (received : Int)

namespace Complaint

def code : Complaint → Code
  | unknownTable _ _ | foreignTable _ _ => .unknownTable
  | unknownColumn _ _ _ => .unknownColumn
  | repeatedJoin _ | sourceNotJoined _ _ | unrelated _ _ _ => .invalidJoin
  | operator _ _ _ | granularity _ _ | aggregateType _ _ _ => .invalidOperator
  | _ => .invalidQuery

def message : Complaint → String
  | malformed complaint _ => complaint.message
  | unknownTable name _ => s!"Table '{name}' does not exist."
  | foreignTable name _ => s!"Table '{name}' is not part of the query."
  | unknownColumn column table _ => s!"Column '{column}' does not exist on table '{table}'."
  | repeatedJoin table => s!"Table '{table}' is already part of the query."
  | sourceNotJoined source _ =>
    s!"Join source '{source}' must be the from table or an earlier join."
  | unrelated source table _ => s!"No relation links '{source}' and '{table}'."
  | operator op type column =>
    s!"Operator '{op.name}' is not allowed on {type.name} column '{column}'."
  | noList column _ => s!"Operator 'in' on '{column}' needs a non-empty list."
  | noValue op column =>
    s!"Operator '{op.name}' on '{column}' needs a value; use is_null / is_not_null "
      ++ "to test for NULL."
  | noScalar op column _ => s!"Operator '{op.name}' on '{column}' needs a scalar value."
  | noIds => "byIds must list at least one id."
  | noSingleKey table _ => s!"byIds needs a single-column primary key on '{table}'."
  | aggregateCount => "count mode cannot be combined with groupBy or aggregations."
  | granularity column type =>
    s!"Granularity needs a date or timestamp column; '{column}' is {type.name}."
  | repeatedLabel label => s!"Aggregation alias '{label}' is used twice."
  | noAggregateColumn fn => s!"Aggregate '{Vocabulary.name fn}' needs a column."
  | aggregateType fn column type =>
    s!"Aggregate '{Vocabulary.name fn}' needs a numeric column; '{column}' is {type.name}."
  | ungrouped column _ => s!"Column '{column}' must appear in groupBy when aggregating."
  | joinedColumns _ => "Joined columns must be selected through groupBy when aggregating."
  | unknownLabel label _ => s!"HAVING references unknown aggregation alias '{label}'."
  | limit _ => "limit must be a positive integer."
  | offset _ => "offset must not be negative."

/-- The names of the types with a property, in order. -/
def typeNames (p : ColumnType → Bool) : Value :=
  .ofTexts (sorted ((Vocabulary.members.filter p).map ColumnType.name))

def expected : Complaint → Value
  | malformed _ _ => .null
  | unknownTable _ known => .ofTexts known
  | foreignTable _ tables => .ofTexts tables
  | unknownColumn _ _ columns => .ofTexts columns
  | repeatedJoin _ => .text "each table joined once"
  | sourceNotJoined _ joined => .ofTexts joined
  | unrelated _ _ related => .ofTexts related
  | operator _ type _ => .ofTexts type.operatorNames
  | noList _ _ => .text "non-empty list"
  | noValue _ _ => .text "non-null scalar"
  | noScalar _ _ _ => .text "scalar"
  | noIds => .text "non-empty list"
  | noSingleKey _ _ => .text "one primary key column"
  | aggregateCount => .text "rows"
  | granularity _ _ => typeNames ColumnType.isTemporal
  | repeatedLabel _ => .text "unique alias"
  | noAggregateColumn _ => .text "column reference"
  | aggregateType _ _ _ => typeNames ColumnType.isNumeric
  | ungrouped _ grouped => .ofTexts (sortedOnce grouped)
  | joinedColumns _ => .list []
  | unknownLabel _ labels => .ofTexts (sortedOnce labels)
  | limit _ => .text "> 0"
  | offset _ => .text ">= 0"

def received : Complaint → Value
  | malformed _ received => received
  | unknownTable name _ | foreignTable name _ => .text name
  | unknownColumn column _ _ => .text column
  | repeatedJoin table => .text table
  | sourceNotJoined source _ => .text source
  | unrelated _ table _ => .text table
  | operator op _ _ => .text op.name
  | noList _ received | noScalar _ _ received => received
  | noValue _ _ | noAggregateColumn _ => .null
  | noIds => .list []
  | noSingleKey _ key => .ofTexts key
  | aggregateCount => .text "count"
  | granularity _ type | aggregateType _ _ type => .text type.name
  | repeatedLabel label => .text label
  | ungrouped column _ => .text column
  | joinedColumns columns => .ofTexts columns
  | unknownLabel label _ => .text label
  | limit received | offset received => .int received

end Complaint

structure Issue where
  field : String
  complaint : Complaint

namespace Issue

def message (issue : Issue) : String := issue.complaint.message

/-- The issue of an input that does not have the form of a query or a context. -/
def ofInput (input : String) (issue : Decoding.Issue) : Issue :=
  ⟨".".intercalate (input :: issue.path.map (·.text)),
    .malformed issue.complaint issue.received⟩

def toValue (issue : Issue) : Value := .object [
  ("code", .text issue.complaint.code.name), ("field", .text issue.field),
  ("message", .text issue.message), ("expected", issue.complaint.expected),
  ("received", issue.complaint.received)]

end Issue

end Polystore.Validation
