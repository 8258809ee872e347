import Polystore.Statement.Basic

/-!
Statements as values: every part as an object with all its fields.
-/

namespace Polystore.Statement

def TableName.toValue (t : TableName String) : Value := .object [
  ("alias", .text t.apiName), ("name", .text t.physicalName), ("catalog", .ofText? t.catalog),
  ("schema", .ofText? t.schema)]

def ColumnName.toValue (c : ColumnName String) : Value := .object [
  ("table_alias", .text c.table), ("name", .text c.physicalName), ("label", .text c.label),
  ("type", .ofWord c.type)]

def conditionValue (c : Condition (ColumnName String)) : Value := .object [
  ("column", c.column.toValue), ("op", c.op.value), ("value", c.value),
  ("source", .ofWord c.source)]

def Join.toValue (j : Join String) : Value := .object [
  ("table", j.table.toValue), ("type", .ofWord j.kind), ("left", j.left.toValue),
  ("right", j.right.toValue), ("filters", .list (j.conditions.map conditionValue))]

def Group.toValue (g : Group String) : Value := .object [
  ("column", g.column.toValue), ("granularity", .ofOption Named.value g.granularity)]

def Aggregate.toValue (a : Aggregate String) : Value := .object [
  ("fn", a.fn.value), ("column", .ofOption ColumnName.toValue a.column),
  ("alias", .text a.label)]

def Having.toValue (h : Having String) : Value := .object [
  ("aggregation", h.aggregate.toValue), ("op", h.op.value), ("value", h.value)]

def Order.toValue (o : Order String) : Value :=
  let (column, granularity, label) := match o.key with
    | .label name => (Value.null, Value.null, Value.text name)
    | .column c granularity => (c.toValue, .ofOption Named.value granularity, .null)
    | .nothing => (.null, .null, .null)
  .object [
    ("direction", o.direction.value), ("column", column),
    ("granularity", granularity), ("alias", label)]

def toValue (s : Statement String) : Value := .object [
  ("strategy", .text s.strategy), ("target_database", .text s.target),
  ("engine", .text s.engine), ("table", s.table.toValue),
  ("joins", .list (s.joins.map (·.toValue))), ("columns", .list (s.columns.map (·.toValue))),
  ("filters", .list (s.conditions.map conditionValue)),
  ("group_by", .list (s.groupBy.map (·.toValue))),
  ("aggregations", .list (s.aggregates.map (·.toValue))),
  ("having", .list (s.having.map (·.toValue))),
  ("order_by", .list (s.orderBy.map (·.toValue))), ("limit", s.limit),
  ("offset", s.offset), ("mode", .ofWord s.mode)]

end Polystore.Statement
