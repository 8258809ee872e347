import Polystore.Condition
import Polystore.Metadata.Catalog
import Polystore.Trace

/-!
Access control. A role needs a rule for every table of a query and may name only the columns that
the rule allows; what it selects by default is exactly those. The row rules of every table are
added to the filters of the caller, with values from the context.
-/

namespace Polystore

/-- What a role may see of a table of a query. -/
structure Scope where
  table : Table
  allowed : List String
  rows : List (Condition ColumnRef)

/-- A query under access control: what it selects, its filters with those of the row rules behind
them, and the scope of each table by name. -/
structure ScopedQuery where
  query : Query
  selection : List ColumnRef
  filters : List (Condition ColumnRef)
  scopes : Entries String Scope

namespace Access

/-- The columns that a rule allows, in the order of the table. -/
def allowedColumns (t : Table) (rule : TableRule) : List String :=
  match rule.allowed with
  | .all => t.columnNames
  | .only names => t.columnNames.filter names.contains

/-- The tables of a query with the rule that the role has for each. -/
def rules (c : Catalog) (role : String) : List String
    → Traced (Entries String (Table × TableRule))
  | [] => pure []
  | name :: rest =>
    match c.table? name with
    | none => denied name
    | some t =>
      match c.rule? role t with
      | none => denied name
      | some rule => do return (name, t, rule) :: (← rules c role rest)
where
  denied (name : String) : Traced (Entries String (Table × TableRule)) := do
    .note .accessControl "Table access denied" [("role", .text role), ("table", .text name)]
    .refuse (.tableDenied role name)

/-- Every column that the caller names, clause by clause. -/
def referencedColumns (q : Query) : List ColumnRef :=
  q.namedColumns ++ q.filters.map (q.ref ·.column)
    ++ (q.orderBy.filter fun o => !q.aggregateLabels.contains o.column).map (q.ref ·.column)
    ++ q.groupBy.map (q.ref ·.column)
    ++ ((q.aggregations.filterMap (·.column)).filter (!·.isEmpty)).map q.ref

/-- Checks that columns are allowed, one after the other. -/
def checkColumns (role : String) (allowed : Entries String (List String))
    : List ColumnRef → Traced Unit
  | [] => pure ()
  | ref :: rest =>
    match allowed.lookup ref.table with
    | none => .fail (.fault (.unknownName ref.table))
    | some names =>
      if names.contains ref.column then checkColumns role allowed rest
      else do
        .note .accessControl "Column access denied" [
          ("role", .text role), ("table", .text ref.table), ("column", .text ref.column)]
        .refuse (.columnDenied role ref.table ref.column names)

/-- The references without those to a column that an earlier one is to. -/
def distinctColumns (refs : List ColumnRef) : List ColumnRef :=
  refs.foldl
    (fun kept ref => if kept.any (·.path == ref.path) then kept else kept ++ [ref]) []

/-- The allowed columns of every table of a query, those of joined tables qualified. -/
def defaultSelection (q : Query) (allowed : Entries String (List String)) : List ColumnRef :=
  ((allowed.lookup q.source).getD []).map (⟨q.source, ·, false⟩)
    ++ q.joins.flatMap fun j =>
      ((allowed.lookup j.table).getD []).map (.joined j.table)

/-- What a query selects: the columns it names, or all allowed ones where it names none. An
aggregate query selects none. -/
def selection (q : Query) (allowed : Entries String (List String)) : List ColumnRef :=
  if q.isAggregate then []
  else if q.namedColumns.isEmpty then defaultSelection q allowed
  else distinctColumns q.namedColumns

/-- The filters of the caller. -/
def callerFilters (q : Query) : List (Condition ColumnRef) :=
  q.filters.map fun f => ⟨q.ref f.column, .known f.op, f.value, .caller⟩

/-- The condition of a row rule, with its value from the context. Membership in a value that is no
list is membership in the list of that value. -/
def condition (table : String) (context : Context) (rule : RowRule)
    : Except Refusal (Condition ColumnRef) :=
  let ref := ColumnRef.joined table rule.column
  let op := rule.operator.toOperator
  if op.isNullCheck then .ok ⟨ref, .known op, .null, .rowRule⟩
  else
    let key := rule.contextKey.getD ""
    match context.values.cell key with
    | .null => .error (.missingContext table rule.column key)
    | value =>
      let value := match rule.operator, value with
        | .among, .list items => .list items
        | .among, value => .list [value]
        | _, value => value
      .ok ⟨ref, .known op, value, .rowRule⟩

/-- The conditions of the row rules of a table. -/
def conditions (table : String) (context : Context)
    : List RowRule → Except Refusal (List (Condition ColumnRef))
  | [] => .ok []
  | rule :: rest => do return (← condition table context rule) :: (← conditions table context rest)

/-- The scopes of tables, whose row conditions are recorded table by table. -/
def scopes (context : Context) : Entries String (Table × TableRule)
    → Traced (Entries String Scope)
  | [] => pure []
  | (name, t, rule) :: rest =>
    match conditions name context rule.rows with
    | .error r => .refuse r
    | .ok rows => do
      rows.forM fun row => .note .rowRules "Row filter injected" [
        ("table", .text name), ("column", .text row.column.column),
        ("operator", row.op.value)]
      return (name, ⟨t, allowedColumns t rule, rows⟩) :: (← scopes context rest)

/-- Puts a query under access control. -/
def apply (c : Catalog) (q : Query) (context : Context) : Traced ScopedQuery := do
  let rules ← rules c context.role q.tableNames
  let allowed : Entries String (List String) :=
    rules.map fun (name, t, rule) => (name, allowedColumns t rule)
  checkColumns context.role allowed (referencedColumns q)
  let selection := selection q allowed
  .note .accessControl "Column access granted" [
    ("role", .text context.role), ("columns", .ofTexts (selection.map (·.label)))]
  let scopes ← scopes context rules
  let rows := scopes.values.flatMap (·.rows)
  return ⟨q, selection, callerFilters q ++ rows, scopes⟩

end Access

namespace ScopedQuery

/-- The conditions of the row rules. -/
def rowConditions (s : ScopedQuery) : List (Condition ColumnRef) :=
  s.filters.filter (·.source == .rowRule)

end ScopedQuery

end Polystore
