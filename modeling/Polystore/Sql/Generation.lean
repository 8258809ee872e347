import Polystore.Sql.Dialect
import Polystore.Text.Capitals
import Polystore.Trace

/-!
SQL of statements. Each clause is a text of pieces; the clauses stand on lines of their own, in the
order of the language. Where a statement has no SQL, the first clause without one says why.
-/

namespace Polystore.Sql

open Statement

variable {ν : Type} [Nominal ν]

/-- A text, or why there is none. -/
abbrev Written := Except Failure Sql

def inexpressible (what : Inexpressible) : Written := .error (.refused (.inexpressible what))

/-- What is said of a value, if it can be written. -/
def objection (v : Value) (what : Value → Inexpressible) : Failure :=
  match v.write with
  | .ok _ => .refused (.inexpressible (what v))
  | .error failure => .unwritable failure

/-- What is said of a value that is no word of the language. A collection cannot even be looked for
among the words. -/
def unknownWord {α : Type} (v : Value) (what : Value → Inexpressible) : Except Failure α :=
  .error (if v.isCollection then .fault .noKey else objection v what)

def column (c : ColumnName ν) : Written := path [c.table, c.physicalName]

/-- A column, truncated where there is a granularity. -/
def truncated (d : Dialect) (c : ColumnName ν) (granularity : Option (Named Granularity))
    : Written := do
  let column ← column c
  match granularity with
  | none => return column
  | some g => d.truncation g.value column

/-- The function of an aggregate of a column. -/
def aggregateFunction : AggregateFn → String
  | .count => "COUNT("
  | .countDistinct => "COUNT(DISTINCT "
  | .sum => "SUM("
  | .average => "AVG("
  | .minimum => "MIN("
  | .maximum => "MAX("

def aggregate (a : Aggregate ν) : Written :=
  match a.column, a.fn with
  | none, .known .count => .ok [.text "COUNT(*)"]
  | none, fn => .error (objection fn.value .aggregateWithoutColumn)
  | some c, fn => do
    let column ← column c
    match fn with
    | .known fn => return .text (aggregateFunction fn) :: column ++ [.text ")"]
    | .unknown fn => unknownWord fn .aggregate

/-- The sign of an operator between two operands. -/
def sign : Named Operator → Except Failure String
  | .known .equal => .ok "="
  | .known .differ => .ok "<>"
  | .known .greater => .ok ">"
  | .known .less => .ok "<"
  | .known .atLeast => .ok ">="
  | .known .atMost => .ok "<="
  | .known .like => .ok "LIKE"
  | op => unknownWord op.value .operator

/-- A comparison with a value; truth values are written out. -/
def compare (d : Dialect) (left : Sql) (op : Named Operator) (value : Value) : Written :=
  match sign op, value with
  | .error failure, _ => .error failure
  | .ok sign, .bool b => .ok (left ++ [.text s!" {sign} ", .text (d.truth b)])
  | .ok sign, value => .ok (left ++ [.text s!" {sign} ", .slot value])

/-- Membership in the elements of a value, which nothing has in a value without elements. -/
def member (d : Dialect) (c : Sql) (value : Value) : Written :=
  if !value.isPresent then .ok [.text "1 = 0"]
  else
    match value.elements? with
    | none => .error (.fault .noElements)
    | some values => .ok (d.membership c [.slot (.list values)])

def condition (d : Dialect) (c : Condition (ColumnName ν)) : Written := do
  let column ← column c.column
  match c.op with
  | .known .isNull => return column ++ [.text " IS NULL"]
  | .known .isNotNull => return column ++ [.text " IS NOT NULL"]
  | .known .among => member d column c.value
  | op => compare d column op c.value

/-- A text under a label. -/
def labelled (label : ν) (sql : Sql) : Written := do
  return sql ++ [.text " AS ", ← name label]

/-- The items of the select list. -/
def selectItems (d : Dialect) (s : Statement ν) : Except Failure (List Sql) :=
  if s.mode = .count then do return [← labelled "count" [.text "COUNT(*)"]]
  else if !s.groupBy.isEmpty || !s.aggregates.isEmpty then do
    let groups ← s.groupBy.mapM fun g => do
      labelled g.column.label (← truncated d g.column g.granularity)
    let aggregates ← s.aggregates.mapM fun a => do labelled a.label (← aggregate a)
    return groups ++ aggregates
  else s.columns.mapM fun c => do labelled c.label (← column c)

def select (d : Dialect) (s : Statement ν) : Written := do
  match ← selectItems d s with
  | [] => inexpressible .noColumns
  | items => return .text "SELECT " :: join ", " items

/-- A table under its name in the statement. -/
def source (d : Dialect) (t : TableName ν) : Written := do
  labelled t.apiName (← d.table t)

def joinClause (d : Dialect) (j : Statement.Join ν) : Written := do
  let keyword := match j.kind with
    | .inner => "INNER JOIN "
    | .left => "LEFT JOIN "
  let left ← column j.left
  let right ← column j.right
  let conditions ← j.conditions.mapM (condition d)
  let table ← source d j.table
  let link := left ++ .text " = " :: right
  return .text keyword :: table ++ .text " ON " :: join " AND " (link :: conditions)

/-- A clause of items, which is left out where there are none. -/
def clause (keyword separator : String) (items : List Sql) : List Sql :=
  if items.isEmpty then [] else [.text keyword :: join separator items]

/-- The word of a direction, which may be any text. -/
def directionWord (direction : Named Direction) : Except Failure String :=
  match direction.value with
  | .text s => .ok (Text.capitals s)
  | _ => .error (.fault .noText)

def orderItem (d : Dialect) (o : Order ν) : Written := do
  let key ← match o.key with
    | .label label => path [label]
    | .column c granularity => truncated d c granularity
    | .nothing => .error (.fault .absent)
  return key ++ [.text (" " ++ (← directionWord o.direction))]

/-- The clauses of a statement. -/
def clauses (d : Dialect) (s : Statement ν) : Except Failure (List Sql) := do
  let select ← select d s
  let table ← source d s.table
  let joins ← s.joins.mapM (joinClause d)
  let conditions ← s.conditions.mapM (condition d)
  let groups ← s.groupBy.mapM fun g => truncated d g.column g.granularity
  let having ← s.having.mapM fun h => do compare d (← aggregate h.aggregate) h.op h.value
  let order ← if s.mode = .count then .ok [] else s.orderBy.mapM (orderItem d)
  let paging ← if s.mode = .count then .ok [] else (d.paging s.limit s.offset).mapError .fault
  return select :: (.text "FROM " :: table) :: joins ++ clause "WHERE " " AND " conditions
    ++ clause "GROUP BY " ", " groups ++ clause "HAVING " " AND " having
    ++ clause "ORDER BY " ", " order ++ paging.map fun line => [.text line]

/-- The text of a statement. -/
def ofStatement (d : Dialect) (s : Statement ν) : Written := join "\n" <$> clauses d s

end Sql

/-- SQL with its parameters, and where it is to run. -/
structure Compiled where
  sql : String
  params : List Value
  dialect : String
  target : String

namespace Compiled

variable {ν : Type} [Statement.Nominal ν]

/-- Writes a statement in a dialect. -/
def ofStatement (d : Dialect) (s : Statement ν) : Except Failure Compiled := do
  let sql ← Sql.ofStatement d s
  return ⟨d.render sql, sql.params, d.name, s.target⟩

/-- Writes a statement in a dialect and records it. -/
def generate (d : Dialect) (s : Statement ν) : Traced Compiled := do
  let compiled ← .ofExcept (ofStatement d s)
  .note .generation "SQL generated" [
    ("dialect", .text compiled.dialect), ("target", .text compiled.target),
    ("param_count", .int compiled.params.length)]
  return compiled

end Compiled

end Polystore
