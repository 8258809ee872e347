import Polystore.Metadata.Catalog
import Polystore.Validation.Issue

/-!
Validation of queries against a catalog. Tables, columns and joins have to exist, filters have to
suit the types of their columns, and grouping, ids and paging have to make sense. All issues of a
query are found together, clause by clause.
-/

namespace Polystore.Validation

/-- The name of an item of a clause. -/
def slot (clause : String) (i : Nat) : String := s!"{clause}[{i}]"

/-- The name of a part of an item of a clause. -/
def part (clause : String) (i : Nat) (name : String) : String := s!"{clause}[{i}].{name}"

/-- Joins the lists that a function makes of items and their indexes. -/
def eachFrom {α β : Type} (f : Nat → α → List β) : Nat → List α → List β
  | _, [] => []
  | i, a :: rest => f i a ++ eachFrom f (i + 1) rest

/-- Joins the lists that a function makes of indexes and items. -/
def each {α β : Type} (items : List α) (f : Nat → α → List β) : List β := eachFrom f 0 items

/-- The column that a reference is to, or the issues of the reference. There is no issue with a
column of a table that is itself unknown. -/
def resolve (c : Catalog) (q : Query) (field reference : String) : Except (List Issue) Column :=
  let ref := q.ref reference
  if ref.table ∈ q.tableNames then
    match c.table? ref.table with
    | none => .error []
    | some t =>
      match t.column? ref.column with
      | some column => .ok column
      | none => .error [⟨field, .unknownColumn ref.column t.apiName t.columnNames⟩]
  else .error [⟨field, .foreignTable ref.table q.tableNames⟩]

/-- The issues of a reference, or those of the column it is to. -/
def withColumn (c : Catalog) (q : Query) (field reference : String)
    (issues : Column → List Issue) : List Issue :=
  match resolve c q field reference with
  | .ok column => issues column
  | .error found => found

def tableIssue (c : Catalog) (field name : String) : List Issue :=
  if (c.table? name).isSome then [] else [⟨field, .unknownTable name c.tableNames⟩]

def tableIssues (c : Catalog) (q : Query) : List Issue :=
  tableIssue c "from" q.source
    ++ each q.joins fun i j => tableIssue c (part "joins" i "table") j.table

/-- The tables that share a relation with a table. -/
def relatedTables (c : Catalog) (t : Table) : List String :=
  (c.tables.filter fun other => !(Catalog.relationsBetween t other).isEmpty).map (·.apiName)

/-- The issues of a join of one table to another. -/
def linkIssues (c : Catalog) (i : Nat) (source : String) (j : Join) : List Issue :=
  match c.table? source, c.table? j.table with
  | some origin, some target =>
    (if (Catalog.relationsBetween origin target).isEmpty then
        [⟨slot "joins" i, .unrelated source j.table (relatedTables c origin)⟩]
      else [])
      ++ each j.columns fun k column =>
        if (target.column? column).isSome then []
        else [⟨slot (part "joins" i "columns") k,
          .unknownColumn column j.table target.columnNames⟩]
  | _, _ => []

/-- The issues of joins from an index on, given the tables that are already part of the query. -/
def joinIssuesFrom (c : Catalog) (q : Query) (joined : List String) : Nat → List Join
    → List Issue
  | _, [] => []
  | i, j :: rest =>
    if j.table ∈ joined then
      ⟨slot "joins" i, .repeatedJoin j.table⟩ :: joinIssuesFrom c q joined (i + 1) rest
    else
      let source := j.sourceIn q
      (if source ∈ joined then linkIssues c i source j
        else [⟨part "joins" i "source", .sourceNotJoined source joined⟩])
        ++ joinIssuesFrom c q (joined ++ [j.table]) (i + 1) rest

def joinIssues (c : Catalog) (q : Query) : List Issue := joinIssuesFrom c q [q.source] 0 q.joins

def columnIssues (c : Catalog) (q : Query) : List Issue :=
  (each q.columns fun i reference => withColumn c q (slot "columns" i) reference fun _ => [])
    ++ each q.orderBy fun i item =>
      if item.column ∈ q.aggregateLabels then []
      else withColumn c q (part "orderBy" i "column") item.column fun _ => []

/-- The issues of the value of a filter, whose operator its column admits. -/
def valueIssues (field : String) (f : Filter) : List Issue :=
  if f.op.isNullCheck then []
  else if f.op = .among then
    match f.value with
    | .list (_ :: _) => []
    | received => [⟨field, .noList f.column received⟩]
  else if f.value.isNull then [⟨field, .noValue f.op f.column⟩]
  else if f.value.isCollection then [⟨field, .noScalar f.op f.column f.value⟩]
  else []

def filterIssues (c : Catalog) (q : Query) : List Issue :=
  each q.filters fun i f =>
    withColumn c q (part "filters" i "column") f.column fun column =>
      if column.type.admits f.op then valueIssues (part "filters" i "value") f
      else [⟨part "filters" i "op", .operator f.op column.type f.column⟩]

def idIssues (c : Catalog) (q : Query) : List Issue :=
  match q.byIds with
  | none => []
  | some ids =>
    (if ids.isEmpty then [⟨"byIds", .noIds⟩] else [])
      ++ match c.table? q.source with
        | none => []
        | some t =>
          if t.primaryKey.length = 1 then []
          else [⟨"byIds", .noSingleKey t.apiName t.primaryKey⟩]

/-- The columns that a query groups by, as table and column. -/
def groupedPaths (q : Query) : List String := q.groupBy.map fun g => (q.ref g.column).path

def groupIssues (c : Catalog) (q : Query) : List Issue :=
  each q.groupBy fun i g =>
    withColumn c q (part "groupBy" i "column") g.column fun column =>
      if g.granularity.isSome ∧ !column.type.isTemporal then
        [⟨part "groupBy" i "granularity", .granularity g.column column.type⟩]
      else []

/-- The issues of aggregates from an index on, given the labels before them. -/
def aggregateIssuesFrom (c : Catalog) (q : Query) (labels : List String) : Nat
    → List Aggregation → List Issue
  | _, [] => []
  | i, a :: rest =>
    (if a.label ∈ labels then [⟨part "aggregations" i "alias", .repeatedLabel a.label⟩] else [])
      ++ (match a.column with
        | none =>
          if a.fn = .count then []
          else [⟨part "aggregations" i "column", .noAggregateColumn a.fn⟩]
        | some reference =>
          withColumn c q (part "aggregations" i "column") reference fun column =>
            if a.fn ∈ [.sum, .average] ∧ !column.type.isNumeric then
              [⟨part "aggregations" i "fn", .aggregateType a.fn reference column.type⟩]
            else [])
      ++ aggregateIssuesFrom c q (labels ++ [a.label]) (i + 1) rest

/-- The issues of columns that an aggregate query selects without grouping by them. -/
def ungroupedIssues (q : Query) : List Issue :=
  if q.isAggregate then
    (each q.columns fun i reference =>
      if (q.ref reference).path ∈ groupedPaths q then []
      else [⟨slot "columns" i, .ungrouped reference (groupedPaths q)⟩])
      ++ each q.joins fun i j =>
        if j.columns.isEmpty then [] else [⟨part "joins" i "columns", .joinedColumns j.columns⟩]
  else []

def havingIssues (q : Query) : List Issue :=
  each q.having fun i h =>
    if h.label ∈ q.aggregateLabels then []
    else [⟨part "having" i "alias", .unknownLabel h.label q.aggregateLabels⟩]

def aggregationIssues (c : Catalog) (q : Query) : List Issue :=
  (if q.mode = .count ∧ q.isAggregate then [⟨"mode", .aggregateCount⟩] else [])
    ++ groupIssues c q ++ aggregateIssuesFrom c q [] 0 q.aggregations ++ ungroupedIssues q
    ++ havingIssues q

def pagingIssues (q : Query) : List Issue :=
  (match q.limit with
    | some n => if n ≤ 0 then [⟨"limit", .limit n⟩] else []
    | none => [])
    ++ match q.offset with
      | some n => if n < 0 then [⟨"offset", .offset n⟩] else []
      | none => []

/-- Every issue of a query. -/
def issues (c : Catalog) (q : Query) : List Issue :=
  tableIssues c q ++ joinIssues c q ++ columnIssues c q ++ filterIssues c q ++ idIssues c q
    ++ aggregationIssues c q ++ pagingIssues q

end Polystore.Validation
