import Polystore.Planning.Plan
import Polystore.Statement.Basic

/-!
Statements of plans. Tables get the names of the copies that serve them and columns their physical
names. The row conditions of a left-joined table become part of its join; all other conditions
stand behind the restriction to ids.
-/

namespace Polystore.Statement

variable (c : Catalog) (p : Plan)

def fault {α : Type} (f : Fault) : Except Failure α := .error (.fault f)

def scope (name : String) : Except Failure Scope :=
  match p.granted.scopes.lookup name with
  | some scope => .ok scope
  | none => fault (.unknownName name)

/-- The physical name of a column, labelled as the reference is written. -/
def resolveColumn (ref : ColumnRef) : Except Failure (ColumnName String) := do
  let scope ← scope p ref.table
  match scope.table.column? ref.column with
  | some column => return ⟨ref.table, column.physicalName, ref.label, column.type⟩
  | none => fault .absent

def resolveCondition (condition : Condition ColumnRef)
    : Except Failure (Condition (ColumnName String)) :=
  condition.on <$> resolveColumn p condition.column

/-- The name of a table in the statement: that of the copy assigned to it. -/
def tableName (name : String) : Except Failure (TableName String) :=
  match p.assignments.lookup name with
  | some a => .ok ⟨name, a.copy.physicalName, a.catalog, a.schema⟩
  | none => fault (.unknownName name)

/-- The columns of the first relation between two tables, that of the first table first. -/
def linkColumns (source target : Table) : Except Failure (String × String) :=
  match Catalog.relationsBetween source target with
  | [] => .error (.refused (.inexpressible (.noRelation source.apiName target.apiName)))
  | (owner, r) :: _ =>
    .ok (if owner.id = source.id then (r.sourceColumn, r.targetColumn)
      else (r.targetColumn, r.sourceColumn))

/-- The tables that are joined by a left join. -/
def leftJoined (q : Query) : List String :=
  (q.joins.filter (·.kind == .left)).map (·.table)

/-- Whether a condition belongs to the join of its table. -/
def staysInJoin (q : Query) (condition : Condition ColumnRef) : Bool :=
  condition.source == .rowRule && (leftJoined q).contains condition.column.table

/-- The conditions that belong to the joins of a table. -/
def joinConditions (table : String) : List (Condition ColumnRef) :=
  p.granted.filters.filter fun condition =>
    staysInJoin p.query condition && condition.column.table == table

def resolveJoin (j : Polystore.Join) : Except Failure (Join String) := do
  let sourceName := j.sourceIn p.query
  let source ← scope p sourceName
  let target ← scope p j.table
  let (left, right) ← linkColumns source.table target.table
  let table ← tableName p j.table
  let left ← resolveColumn p (.joined sourceName left)
  let right ← resolveColumn p (.joined j.table right)
  let conditions ← (joinConditions p j.table).mapM (resolveCondition p)
  return ⟨table, j.kind, left, right, conditions⟩

/-- The restriction to the ids of the plan, if it has any. -/
def idCondition : Except Failure (List (Condition (ColumnName String))) :=
  match p.ids with
  | none => .ok []
  | some ids => do
    let scope ← scope p p.query.source
    match scope.table.primaryKey with
    | [] => fault .noFirst
    | key :: _ =>
      let column ← resolveColumn p ⟨p.query.source, key, false⟩
      return [⟨column, .known .among, .list ids, .ids⟩]

def resolveGroup (g : GroupItem) : Except Failure (Group String) := do
  return ⟨← resolveColumn p (p.query.ref g.column), g.granularity.map .known⟩

def resolveAggregate (a : Aggregation) : Except Failure (String × Aggregate String) := do
  let column ← match a.column with
    | none => .ok none
    | some reference =>
      if reference.isEmpty then .ok none
      else some <$> resolveColumn p (p.query.ref reference)
  return (a.label, ⟨.known a.fn, column, a.label⟩)

/-- The granularity by which a query groups a column; the last group of the column counts. -/
def granularityOf (q : Query) (ref : ColumnRef) : Option Granularity :=
  (q.groupBy.reverse.find? fun g => (q.ref g.column).path == ref.path).bind (·.granularity)

def resolveOrder (aggregates : Entries String (Aggregate String)) (o : OrderItem)
    : Except Failure (Order String) := do
  if aggregates.has o.column then return ⟨.known o.direction, .label o.column⟩
  else
    let ref := p.query.ref o.column
    let column ← resolveColumn p ref
    return ⟨.known o.direction, .column column ((granularityOf p.query ref).map .known)⟩

def resolveHaving (aggregates : Entries String (Aggregate String)) (h : Polystore.Having)
    : Except Failure (Having String) :=
  match aggregates.lookup h.label with
  | some aggregate => .ok ⟨aggregate, .known h.op.toOperator, h.value⟩
  | none => fault (.unknownName h.label)

/-- Checks that every row condition of a left-joined table can be resolved, and resolves all
others, in the order of the filters. -/
def resolveFilters
    : List (Condition ColumnRef) → Except Failure (List (Condition (ColumnName String)))
  | [] => .ok []
  | condition :: rest => do
    let resolved ← resolveCondition p condition
    let others ← resolveFilters rest
    return if staysInJoin p.query condition then others else resolved :: others

/-- The statement of a plan that needs one. -/
def ofPlan (p : Plan) : Except Failure (Statement String) :=
  match p.engine with
  | none => .error (.refused (.inexpressible .servedFromCache))
  | some engine => do
    let q := p.query
    let filters ← resolveFilters p p.granted.filters
    let joins ← q.joins.mapM (resolveJoin p)
    let ids ← idCondition p
    let groups ← q.groupBy.mapM (resolveGroup p)
    let aggregates := Entries.ofList (← q.aggregations.mapM (resolveAggregate p))
    let orderBy ← q.orderBy.mapM (resolveOrder p aggregates)
    let table ← tableName p q.source
    let columns ← p.granted.selection.mapM (resolveColumn p)
    let having ← q.having.mapM (resolveHaving aggregates)
    return {
      strategy := p.route.strategy
      target := p.route.target
      engine, table, joins, columns
      conditions := ids ++ filters
      groupBy := groups
      aggregates := aggregates.values
      having, orderBy
      limit := .ofOption .int q.limit
      offset := .ofOption .int q.offset
      mode := q.mode }

/-- The statement of a plan, with a record of the names it uses. -/
def resolve (p : Plan) : Traced (Statement String) := do
  let s ← .ofExcept (ofPlan p)
  let tables : Row := p.assignments.map fun (name, a) => (name, .text a.copy.physicalName)
  let columns : Row := .ofList (s.columns.map fun column => (column.label, .text column.path))
  .note .nameResolution "Names resolved" [
    ("tables", .object tables), ("columns", .object columns)]
  return s

end Polystore.Statement
