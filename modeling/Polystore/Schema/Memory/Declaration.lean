import Polystore.Order
import Polystore.Schema.Memory.Basic

/-!
Declaring tables one after the other. A table may be declared once, its columns have names of their
own, and its references start at its columns and each lead to one other table. Whether there is
such a table is not asked before all tables are declared.
-/

namespace Polystore.Schema.Memory

namespace Reference

/-- What is wrong with a reference on its own. -/
def defect? (r : Reference) : Option Defect :=
  if r.sources.length = r.targets.length then none
  else if r.sources.length = r.columns.length then some .unmatchedTargets
  else some .repeatedSources

/-- What is wrong with a reference of a table. -/
def defectIn? (r : Reference) (t : Table) : Option Defect :=
  match r.sources.find? fun source => !t.columns.any (·.name == source) with
  | some source => some (.unknownSource t.name source)
  | none =>
    match sorted (r.targets.map (·.tableKey)).eraseDups with
    | first :: second :: _ => some (.severalTargets t.key r.sources first second)
    | _ => none

end Reference

/-- What is wrong with what a column declares. Neither an index nor a constraint is named there. -/
def Column.defect? (c : Column) : Option Defect :=
  if c.indexed then if c.index.isText then some .namedIndex else none
  else if c.unique.isPresent && c.unique.isText then some .namedConstraint
  else none

/-- What is wrong with the columns of a table, given the names of those before them. -/
def columnDefect? (table : String) (before : List String) : List Column → Option Defect
  | [] => none
  | c :: rest =>
    if c.name.isEmpty then some .unnamedColumn
    else if before.contains c.name then some (.repeatedColumn table c.name)
    else c.defect?.or (columnDefect? table (c.name :: before) rest)

/-- What is wrong with a table among those that were declared before. -/
def Table.defect? (t : Table) (declared : List Table) : Option Defect :=
  if declared.any (·.key == t.key) then some (.redeclared t.key)
  else (columnDefect? t.name [] t.columns).or (t.references.findSome? (·.defectIn? t))

/-- Declares a table. To name a declared table and say nothing of it changes nothing. -/
def declare (declared : List Table) (t : Table) : Except Defect (List Table) :=
  match t.references.findSome? (·.defect?) with
  | some defect => .error defect
  | none =>
    if t.columns.isEmpty && t.references.isEmpty && declared.any (·.key == t.key) then
      .ok declared
    else
      match t.defect? declared with
      | some defect => .error defect
      | none => .ok (declared ++ [t])

end Polystore.Schema.Memory
