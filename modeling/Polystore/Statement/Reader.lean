import Polystore.Metadata.Record
import Polystore.Statement.Basic

/-!
Statements read from records, which may leave out whatever has a standard value. A column is a list
that begins with its table, its name, its label and its type; a predicate names its aggregate by
position. Names are taken as they are, though only texts can be quoted in the end.
-/

namespace Polystore.Statement

namespace Reader

/-- A member of a record, if the record has it. -/
def member? (record : Value) (name : String) : Option Value :=
  match record with
  | .object members => members.lookup name
  | _ => none

/-- A member that every record has. -/
def needed (record : Value) (name : String) : Except Fault Value :=
  match record, member? record name with
  | _, some v => .ok v
  | .object _, none => .error (.unknownName name)
  | _, none => .error .noElements

/-- A member that is null where a record leaves it out. -/
def optional (record : Value) (name : String) : Value := (member? record name).getD .null

/-- The elements of a member, of which there are none where a record leaves it out. -/
def elements (record : Value) (name : String) : Except Fault (List Value) :=
  match member? record name with
  | none => .ok []
  | some v => v.elements?.elim (.error .noElements) .ok

/-- A text that is left out, or that something else stands in the place of. -/
def text (record : Value) (name standard : String) : String :=
  match member? record name with
  | some v => v.display
  | none => standard

/-- A table's names. No other members are known. -/
def table (record : Value) : Except Fault (TableName Value) := do
  let known := ["alias", "name", "catalog", "schema"]
  match record, member? record "alias", member? record "name" with
  | .object members, some called, some name =>
    if members.all fun m => known.contains m.1 then
      return ⟨called, name, member? record "catalog", member? record "schema"⟩
    else .error .noElements
  | _, _, _ => .error .noElements

def columnType (v : Value) : Except Fault ColumnType :=
  match v with
  | .text name => (Vocabulary.ofName? name).elim (.error (.unknownWord v "ColumnType")) .ok
  | v => .error (.unknownWord v "ColumnType")

/-- A column, or null. -/
def column? (v : Value) : Except Fault (Option (ColumnName Value)) :=
  match v with
  | .null => .ok none
  | .list (table :: name :: label :: type :: _) => do
    return some ⟨table, name, label, ← columnType type⟩
  | .list _ => .error .noFirst
  | _ => .error .noElements

/-- A column that cannot be quoted where there is none. -/
def column (v : Value) : Except Fault (ColumnName Value) :=
  (fun c => c.getD ⟨.null, .null, .null, .string⟩) <$> column? v

/-- A column that labels a result. -/
def labelled (v : Value) : Except Fault (ColumnName Value) := do
  match ← column? v with
  | some c => return c
  | none => .error .noText

def condition (record : Value) : Except Fault (Condition (ColumnName Value)) := do
  let column ← column (← needed record "column")
  let op ← needed record "op"
  let source := Vocabulary.ofName? (text record "source" "")
  return ⟨column, .ofValue op, optional record "value", source.getD .caller⟩

def join (record : Value) : Except Fault (Join Value) := do
  let table ← table (← needed record "table")
  let kind ← needed record "type"
  let left ← column (← needed record "left")
  let right ← column (← needed record "right")
  let conditions ← (← elements record "filters").mapM condition
  return ⟨table, if kind.same (.text "inner") then .inner else .left, left, right, conditions⟩

/-- A granularity; a value that does not count as present is none. -/
def granularity (record : Value) : Option (Named Granularity) :=
  let v := optional record "granularity"
  if v.isPresent then some (.ofValue v) else none

def aggregate (record : Value) : Except Fault (Aggregate Value) := do
  let fn ← needed record "fn"
  let column ← column? (optional record "column")
  return ⟨.ofValue fn, column, ← needed record "alias"⟩

/-- The aggregate at a position, which counts from the end where it is negative. -/
def aggregateAt (aggregates : List (Aggregate Value)) (position : Value)
    : Except Fault (Aggregate Value) := do
  let i ← match position with
    | .int i => .ok i
    | .bool b => .ok (if b then 1 else 0)
    | _ => .error .noElements
  let i := if i < 0 then i + aggregates.length else i
  match if i < 0 then none else aggregates[i.toNat]? with
  | some a => return a
  | none => .error .noFirst

def having (aggregates : List (Aggregate Value)) (record : Value)
    : Except Fault (Having Value) := do
  let aggregate ← aggregateAt aggregates (← needed record "aggregation")
  return ⟨aggregate, .ofValue (← needed record "op"), optional record "value"⟩

def order (record : Value) : Except Fault (Order Value) := do
  let direction ← needed record "direction"
  let column ← column? (optional record "column")
  let key := match optional record "alias", column with
    | .null, some c => .column c (granularity record)
    | .null, none => .nothing
    | label, _ => .label label
  return ⟨.ofValue direction, key⟩

/-- Whether a statement shows its groups and aggregates instead of its columns. -/
def groups (record : Value) : Bool :=
  ["group_by", "aggregations"].any fun name => (optional record name).isPresent

/-- Whether a statement asks for a number of rows only. -/
def counts (record : Value) : Bool := (optional record "mode").same (.text "count")

/-- The columns. They have to be there where they label results. -/
def columns (record : Value) : Except Fault (List (ColumnName Value)) := do
  let values ← elements record "columns"
  if counts record || groups record then
    return (← values.mapM column?).filterMap id
  else values.mapM labelled

/-- The columns that rows are grouped by. -/
def group (record : Value) (item : Value) : Except Fault (Group Value) := do
  let v ← needed item "column"
  return ⟨← if counts record then column v else labelled v, granularity item⟩

/-- Reads a statement. -/
def read (record : Value) : Except Fault (Statement Value) := do
  let table ← table (← needed record "table")
  let joins ← (← elements record "joins").mapM join
  let columns ← columns record
  let conditions ← (← elements record "filters").mapM condition
  let groupBy ← (← elements record "group_by").mapM (group record)
  let aggregates ← (← elements record "aggregations").mapM aggregate
  let having ← (← elements record "having").mapM (having aggregates)
  let orderBy ← (← elements record "order_by").mapM order
  return {
    strategy := text record "strategy" "direct"
    target := text record "target_database" "db"
    engine := text record "engine" "postgres"
    table, joins, columns, conditions, groupBy, aggregates, having, orderBy
    limit := optional record "limit"
    offset := optional record "offset"
    mode := if counts record then .count else .rows }

end Reader

end Polystore.Statement
