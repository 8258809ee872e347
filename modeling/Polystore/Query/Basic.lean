import Polystore.Metadata.Freshness
import Polystore.Operator
import Polystore.Query.ColumnRef
import Polystore.Value

/-!
Declarative queries: a table, joins along declared relations, filters, grouping, aggregates, order
and paging; and the context a query is asked in.
-/

namespace Polystore

inductive JoinKind where
  | left
  | inner
  deriving DecidableEq, Inhabited

namespace JoinKind

instance : Vocabulary JoinKind where
  members := [left, inner]
  name
    | left => "left"
    | inner => "inner"

end JoinKind

inductive Direction where
  | ascending
  | descending
  deriving DecidableEq, Inhabited

namespace Direction

instance : Vocabulary Direction where
  members := [ascending, descending]
  name
    | ascending => "asc"
    | descending => "desc"

end Direction

inductive AggregateFn where
  | count
  | countDistinct
  | sum
  | average
  | minimum
  | maximum
  deriving DecidableEq, Inhabited

namespace AggregateFn

instance : Vocabulary AggregateFn where
  members := [count, countDistinct, sum, average, minimum, maximum]
  name
    | count => "count"
    | countDistinct => "count_distinct"
    | sum => "sum"
    | average => "avg"
    | minimum => "min"
    | maximum => "max"

end AggregateFn

/-- The units that times are truncated to. -/
inductive Granularity where
  | hour
  | day
  | week
  | month
  | quarter
  | year
  deriving DecidableEq, Inhabited

namespace Granularity

instance : Vocabulary Granularity where
  members := [hour, day, week, month, quarter, year]
  name
    | hour => "hour"
    | day => "day"
    | week => "week"
    | month => "month"
    | quarter => "quarter"
    | year => "year"

end Granularity

/-- Whether a query asks for rows or for their number. -/
inductive Mode where
  | rows
  | count
  deriving DecidableEq, Inhabited

namespace Mode

instance : Vocabulary Mode where
  members := [rows, count]
  name
    | rows => "rows"
    | count => "count"

end Mode

structure Filter where
  column : String
  op : Operator
  value : Value

/-- A join of a table from a table that is already part of the query, with the columns selected
from the joined table. -/
structure Join where
  table : String
  kind : JoinKind
  source : Option String
  columns : List String

structure OrderItem where
  column : String
  direction : Direction

structure GroupItem where
  column : String
  granularity : Option Granularity

structure Aggregation where
  fn : AggregateFn
  column : Option String
  label : String

/-- A predicate on the aggregate of a label. -/
structure Having where
  label : String
  op : Comparison
  value : Value

structure Query where
  source : String
  columns : List String
  filters : List Filter
  joins : List Join
  orderBy : List OrderItem
  groupBy : List GroupItem
  aggregations : List Aggregation
  having : List Having
  limit : Option Int
  offset : Option Int
  byIds : Option (List Value)
  freshness : Option Freshness
  mode : Mode

namespace Join

/-- The table that a join starts from, by default that of the query. -/
def sourceIn (j : Join) (query : Query) : String :=
  match j.source with
  | some name => if name.isEmpty then query.source else name
  | none => query.source

end Join

namespace Query

/-- The table the query starts from and the joined tables, each once. -/
def tableNames (q : Query) : List String := (q.source :: q.joins.map (·.table)).eraseDups

def isAggregate (q : Query) : Bool := !q.aggregations.isEmpty || !q.groupBy.isEmpty

/-- Reads a reference of the query. -/
def ref (q : Query) (reference : String) : ColumnRef := .parse q.source reference

/-- The labels of the aggregates. -/
def aggregateLabels (q : Query) : List String := q.aggregations.map (·.label)

/-- The columns selected by name: those of the query, then those of its joins. -/
def namedColumns (q : Query) : List ColumnRef :=
  q.columns.map q.ref ++ q.joins.flatMap fun j => j.columns.map (.joined j.table)

/-- The ids that the query asks for, if there are any. -/
def idList (q : Query) : List Value := q.byIds.getD []

end Query

/-- Who asks, and the values that row rules refer to. -/
structure Context where
  role : String
  values : Row

end Polystore
