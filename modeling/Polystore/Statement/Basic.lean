import Polystore.Condition
import Polystore.Metadata.Record
import Polystore.Query.Basic
import Polystore.Statement.Name

/-!
Statements: queries in physical names, ready to be written as SQL. Every table keeps its name for
callers as its name within the statement, and every column its label.
-/

namespace Polystore

namespace Statement

structure TableName (ν : Type) where
  apiName : ν
  physicalName : ν
  catalog : Option ν
  schema : Option ν
  deriving DecidableEq, Inhabited

structure ColumnName (ν : Type) where
  table : ν
  physicalName : ν
  label : ν
  type : ColumnType
  deriving DecidableEq, Inhabited

namespace ColumnName

/-- Table and physical name with a point between them. -/
def path {ν : Type} [Nominal ν] (c : ColumnName ν) : String :=
  Nominal.display c.table ++ "." ++ Nominal.display c.physicalName

end ColumnName

/-- A joined table. Its own conditions are part of the join, so that they decide which of its rows
are joined and not which rows are kept. -/
structure Join (ν : Type) where
  table : TableName ν
  kind : JoinKind
  left : ColumnName ν
  right : ColumnName ν
  conditions : List (Condition (ColumnName ν))

structure Group (ν : Type) where
  column : ColumnName ν
  granularity : Option (Named Granularity)

structure Aggregate (ν : Type) where
  fn : Named AggregateFn
  column : Option (ColumnName ν)
  label : ν

structure Having (ν : Type) where
  aggregate : Aggregate ν
  op : Named Operator
  value : Value

/-- What rows are ordered by: an aggregate, by its label, or a column, perhaps truncated. -/
inductive OrderKey (ν : Type) where
  | label (name : ν)
  | column (c : ColumnName ν) (granularity : Option (Named Granularity))
  | nothing

structure Order (ν : Type) where
  direction : Named Direction
  key : OrderKey ν

end Statement

/-- A statement over names of a type. -/
structure Statement (ν : Type) where
  strategy : String
  target : String
  engine : String
  table : Statement.TableName ν
  joins : List (Statement.Join ν)
  columns : List (Statement.ColumnName ν)
  conditions : List (Condition (Statement.ColumnName ν))
  groupBy : List (Statement.Group ν)
  aggregates : List (Statement.Aggregate ν)
  having : List (Statement.Having ν)
  orderBy : List (Statement.Order ν)
  /-- What stands for the most rows, null where there is no limit. -/
  limit : Value
  /-- What stands for the number of rows that are passed over. -/
  offset : Value
  mode : Mode

namespace Statement

variable {ν : Type} [Nominal ν]

/-- The labels of the result, in order. -/
def labels (s : Statement ν) : List ν :=
  if s.mode = .count then [Nominal.ofText "count"]
  else if !s.groupBy.isEmpty || !s.aggregates.isEmpty then
    s.groupBy.map (·.column.label) ++ s.aggregates.map (·.label)
  else s.columns.map (·.label)

/-- The columns whose values results may hold under physical names. -/
def resultColumns (s : Statement ν) : List (ColumnName ν) :=
  s.columns ++ s.groupBy.map (·.column)

/-- The labels of physical names. A bare name stands for its first column, a qualified one for its
last. -/
def labelsByName (s : Statement ν) : Entries ν ν :=
  s.resultColumns.foldl
    (fun found c => (found.putNew c.physicalName c.label).put (Nominal.ofText c.path) c.label) []

/-- The label that a name in a row of the backend stands for, if there is one. -/
def labelOf? (s : Statement ν) (name : ν) : Option ν :=
  (s.labelsByName.lookup name).filter fun label => !(Nominal.value label).isNull

/-- A row of the backend with its values under their labels: first those that are there by label,
then those that are there by a physical name. Labels without a value get null. -/
def restore (s : Statement ν) (row : Entries ν Value) : Entries ν Value :=
  let byLabel := s.labels.filterMap fun label => (row.lookup label).map (label, ·)
  let all : Entries ν Value := row.foldl
    (fun found cell =>
      match s.labelOf? cell.1 with
      | some label => found.putNew label cell.2
      | none => found)
    byLabel
  s.labels.eraseDups.map fun label => (label, (all.lookup label).getD .null)

end Statement

end Polystore
