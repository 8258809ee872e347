import Mathlib.Data.List.Sort
import Polystore.Statement.Basic

/-! What statements mean over stored rows. Rows are combined join by join in the order of the
statement, the combinations that meet its conditions are kept, and the result is made of what
each of them contributes. A comparison with null is never met; how other values compare, and
how they are ordered and added up, is left to the engine.
-/

namespace Polystore.Semantics

open Statement

-----------------------------------------------------------------------------------------
-- Stored rows and the conventions of an engine
-----------------------------------------------------------------------------------------

/-- Where the rows of a table are, as a statement names it. -/
structure Place where
  catalog : Option String
  schema : Option String
  physicalName : String

/-- The rows at every place, in storage order, with their values by physical name. -/
abbrev Storage := Place → List Row

/-- The rows that each table of a statement stands for. -/
abbrev Contents := TableName String → List Row

def Storage.contents (storage : Storage) : Contents :=
  fun t => storage ⟨t.catalog, t.schema, t.physicalName⟩

/-- What an engine decides about values: which comparisons of values other than null are met,
which values are one for grouping and order, which come first, what a time is truncated to, and
what sums, averages and extremes are.
-/
structure Conventions where
  holds : Operator → Value → Value → Bool
  alike : Value → Value → Bool
  precedes : Value → Value → Bool
  truncate : Granularity → Value → Value
  total : AggregateFn → List Value → Value

namespace Conventions

variable (v : Conventions)

/-- Whether a value meets an operator and another value. Null meets no comparison. -/
def meets (op : Named Operator) (actual value : Value) : Bool :=
  match op with
  | .known .isNull => actual.isNull
  | .known .isNotNull => !actual.isNull
  | .known .among =>
      !actual.isNull
      && (value.elements?.getD []).any fun item => !item.isNull && v.holds .equal item actual
  | .known op => !actual.isNull && !value.isNull && v.holds op actual value
  | .unknown _ => false

/-- A value, truncated where there is a granularity. -/
def truncated (granularity : Option (Named Granularity)) (value : Value) : Value :=
  match granularity with
  | some (.known g) => v.truncate g value
  | _ => value

/-- The values that are not alike to an earlier one. -/
def distinct (values : List Value) : List Value :=
  values.foldl
    (fun found value => if found.any (v.alike value) then found else found ++ [value]) []

/-- The value of an aggregate, given the value of its column in each row, if it has one. -/
def aggregate (fn : Named AggregateFn) (arguments : List (Option Value)) : Value :=
  let values := arguments.filterMap fun argument => argument.filter fun value => !value.isNull
  match fn with
  | .known .count => .int (values.length + arguments.countP Option.isNone)
  | .known .countDistinct => .int (v.distinct values).length
  | .known fn => v.total fn values
  | .unknown _ => .null

/-- Whether values do not come after others, compared in order and in their directions. -/
def ordered : List (Named Direction) → List Value → List Value → Bool
  | direction :: directions, a :: as, b :: bs =>
      if v.alike a b then ordered directions as bs
      else
        match direction with
        | .known .descending => v.precedes b a
        | _ => v.precedes a b
  | _, _, _ => true

end Conventions

-----------------------------------------------------------------------------------------
-- Combinations of rows
-----------------------------------------------------------------------------------------

/-- One row of each table so far, by the name of the table. -/
abbrev Combination := Entries String Row

namespace Combination

/-- The value of a column. The empty row that stands for a missing partner has none. -/
def value (x : Combination) (column : ColumnName String) : Value :=
  ((x.lookup column.table).getD []).cell column.physicalName

end Combination

section Combining

variable (v : Conventions)

def meetsAll (x : Combination) (conditions : List (Condition (ColumnName String))) : Bool :=
  conditions.all fun f => v.meets f.op (x.value f.column) f.value

/-- Whether a combination is linked by a join: its columns are equal and its own conditions
are met.
-/
def links (j : Statement.Join String) (x : Combination) : Bool :=
  v.meets (.known .equal) (x.value j.left) (x.value j.right) && meetsAll v x j.conditions

/-- A combination together with the rows that a join links to it. A left join keeps it with an
empty row where there are none.
-/
def joinRows (rows : List Row) (j : Statement.Join String) (x : Combination)
    : List Combination :=
  let extend (row : Row) : Combination := x ++ [(j.table.apiName, row)]
  let linked := rows.filter fun row => links v j (extend row)
  match j.kind with
  | .inner => linked.map extend
  | .left => if linked.isEmpty then [extend []] else linked.map extend

/-- The combinations of rows, with the rows of one join after the other. -/
def joinAll (contents : Contents) : List (Statement.Join String) → List Combination
    → List Combination
  | [], found => found
  | j :: rest, found =>
      joinAll contents rest (found.flatMap (joinRows v (contents j.table) j))

/-- The combinations of rows that meet the conditions of a statement. -/
def kept (s : Statement String) (contents : Contents) : List Combination :=
  let first := (contents s.table).map fun row => [(s.table.apiName, row)]
  (joinAll v contents s.joins first).filter fun x => meetsAll v x s.conditions

end Combining

-----------------------------------------------------------------------------------------
-- Results
-----------------------------------------------------------------------------------------

/-- What a combination contributes to a result: its values of the selected columns, of the
groups, of the aggregates and of those compared, and of what it is ordered by.
-/
structure Contribution where
  cells : List Value
  groups : List Value
  arguments : List (Option Value)
  compared : List (Option Value)
  order : List Value

section Results

variable (v : Conventions) (s : Statement String)

def contribution (x : Combination) : Contribution where
  cells := s.columns.map x.value
  groups := s.groupBy.map fun g => v.truncated g.granularity (x.value g.column)
  arguments := s.aggregates.map fun a => a.column.map x.value
  compared := s.having.map fun h => h.aggregate.column.map x.value
  order := s.orderBy.map fun o =>
    match o.key with
    | .column column granularity => v.truncated granularity (x.value column)
    | _ => .null

/-- The number that a value stands for, if it is one. -/
def count? : Value → Option Nat
  | .int i => some i.toNat
  | _ => none

/-- Puts rows in order and takes those of the page. -/
def page (rows : List (List Value × Row)) : List Row :=
  let directions := s.orderBy.map (·.direction)
  let sorted := rows.insertionSort fun a b => v.ordered directions a.1 b.1
  let behind := (sorted.map Prod.snd).drop ((count? s.offset).getD 0)
  match count? s.limit with
  | some n => behind.take n
  | none => behind

/-- Adds a contribution to the group whose first member it is alike to. -/
def addTo (added : Contribution) : List (List Contribution) → List (List Contribution)
  | [] => [[added]]
  | group :: rest =>
      if group.head?.any fun first => first.groups.length == added.groups.length
          && (first.groups.zip added.groups).all fun (a, b) => v.alike a b then
        (group ++ [added]) :: rest
      else group :: addTo added rest

/-- The groups of contributions. Without columns to group by, all are in one. -/
def groupsOf (found : List Contribution) : List (List Contribution) :=
  if s.groupBy.isEmpty then [found]
  else found.foldl (fun groups added => addTo v added groups) []

/-- The values of aggregates for a group, by the place of each argument. -/
def aggregateValues (fns : List (Named AggregateFn)) (arguments : List (List (Option Value)))
    : List Value :=
  fns.zipIdx.map fun (fn, i) => v.aggregate fn (arguments.map fun row => (row[i]?).join)

/-- The row of a group: what it is grouped by, and its aggregates. -/
def groupRow (group : List Contribution) : Row :=
  let first := (group.head?.map (·.groups)).getD []
  (s.groupBy.map (·.column.label)).zip first
    ++ (s.aggregates.map (·.label)).zip
      (aggregateValues v (s.aggregates.map (·.fn)) (group.map (·.arguments)))

/-- Whether a group meets the predicates on aggregates. -/
def meetsHaving (group : List Contribution) : Bool :=
  let values :=
    aggregateValues v (s.having.map (·.aggregate.fn)) (group.map (·.compared))
  (s.having.zip values).all fun (h, value) => v.meets h.op value h.value

/-- What a group is ordered by: aggregates by their labels, columns by its first member. -/
def groupOrder (group : List Contribution) : List Value :=
  let first := (group.head?.map (·.order)).getD (s.orderBy.map fun _ => .null)
  (s.orderBy.zip first).map fun (o, value) =>
    match o.key with
    | .label name => (groupRow v s group).cell name
    | _ => value

/-- The result that contributions make. -/
def finish (found : List Contribution) : List Row :=
  if s.mode = .count then [[("count", .int found.length)]]
  else if !s.groupBy.isEmpty || !s.aggregates.isEmpty then
    page v s
      (((groupsOf v s found).filter (meetsHaving v s)).map fun group =>
        (groupOrder v s group, groupRow v s group))
  else page v s (found.map fun x => (x.order, (s.columns.map (·.label)).zip x.cells))

/-- The result of a statement over stored rows, with its values by label. -/
def evaluate (storage : Storage) : List Row :=
  finish v s ((kept v s storage.contents).map (contribution v s))

end Results

end Polystore.Semantics

namespace Polystore.Sample

open Semantics

/-- Whole numbers by size, and everything else by equality alone. -/
def conventions : Conventions where
  holds
    | .equal, a, b => a.equals b
    | .differ, a, b => !a.equals b
    | .greater, .int i, .int j => j < i
    | _, _, _ => false
  alike := Value.same
  precedes
    | .int i, .int j => i < j
    | _, _ => false
  truncate _ value := value
  total _ _ := .null

end Polystore.Sample
