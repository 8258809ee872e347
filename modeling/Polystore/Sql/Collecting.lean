import Polystore.Sql.Generation

/-!
SQL written with a collector of parameters. The writers of all clauses share the collector: each
value that it takes up gets the mark of the next number, so the marks are numbered in the order in
which the clauses are written.
-/

namespace Polystore.Sql

open Statement

/-- Writing with the parameters that are taken up so far. -/
abbrev Collecting := StateT (List Value) (Except Failure)

namespace Collecting

variable {ν : Type} [Nominal ν] (d : Dialect)

/-- Takes up a value and gives its mark. -/
def add (v : Value) : Collecting String := do
  let params ← get
  set (params ++ [v])
  return d.placeholder (toString (params.length + 1))

/-- A part that takes up nothing. -/
def fragment (sql : Written) : Collecting String := return d.render (← sql)

def compare (left : String) (op : Named Operator) (value : Value) : Collecting String := do
  let sign ← sign op
  match value with
  | .bool b => return s!"{left} {sign} {d.truth b}"
  | value => return s!"{left} {sign} {← add d value}"

def member (column : String) (value : Value) : Collecting String :=
  if !value.isPresent then return "1 = 0"
  else
    match value.elements? with
    | none => throw (.fault .noElements)
    | some values => do
      return d.render (d.membership [.text column] [.text (← add d (.list values))])

def condition (c : Condition (ColumnName ν)) : Collecting String := do
  let column ← fragment d (column c.column)
  match c.op with
  | .known .isNull => return column ++ " IS NULL"
  | .known .isNotNull => return column ++ " IS NOT NULL"
  | .known .among => member d column c.value
  | op => compare d column op c.value

def joinClause (j : Statement.Join ν) : Collecting String := do
  let keyword := match j.kind with
    | .inner => "INNER JOIN "
    | .left => "LEFT JOIN "
  let left ← fragment d (column j.left)
  let right ← fragment d (column j.right)
  let conditions ← j.conditions.mapM (condition d)
  let table ← fragment d (source d j.table)
  let on := " AND ".intercalate (s!"{left} = {right}" :: conditions)
  return s!"{keyword}{table} ON {on}"

/-- A clause of items, which is left out where there are none. -/
def clause (keyword separator : String) (items : List String) : List String :=
  if items.isEmpty then [] else [keyword ++ separator.intercalate items]

/-- The clauses of a statement. -/
def clauses (s : Statement ν) : Collecting (List String) := do
  let select ← fragment d (select d s)
  let table ← fragment d (source d s.table)
  let joins ← s.joins.mapM (joinClause d)
  let conditions ← s.conditions.mapM (condition d)
  let groups ← s.groupBy.mapM fun g => fragment d (truncated d g.column g.granularity)
  let having ← s.having.mapM fun h => do
    compare d (← fragment d (aggregate h.aggregate)) h.op h.value
  let order ← if s.mode = .count then pure [] else s.orderBy.mapM (fragment d ∘ orderItem d)
  let paging ← if s.mode = .count then pure []
    else liftM ((d.paging s.limit s.offset).mapError Failure.fault)
  return select :: ("FROM " ++ table) :: joins ++ clause "WHERE " " AND " conditions
    ++ clause "GROUP BY " ", " groups ++ clause "HAVING " " AND " having
    ++ clause "ORDER BY " ", " order ++ paging

/-- Writes a statement, with a collector that is empty at first. -/
def compiled (s : Statement ν) : Except Failure Compiled := do
  let (lines, params) ← (clauses d s).run []
  return ⟨"\n".intercalate lines, params, d.name, s.target⟩

end Collecting

end Polystore.Sql
