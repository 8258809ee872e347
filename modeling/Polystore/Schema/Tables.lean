import Polystore.Decoding.Scalar
import Polystore.Metadata.Document
import Polystore.Schema.Basic
import Polystore.Text.Case

/-!
Metadata tables of declared schemas. Every declared table becomes a table of one database, every
foreign key between them a relation; names for callers and ids are given by a naming.
-/

namespace Polystore.Schema

/-- Why a schema is not converted: for a reason of the library, or because a column of metadata
cannot say what was declared. -/
inductive Obstacle (ε : Type) where
  | library (failure : ε)
  | unreadable (issues : List Decoding.Issue)

/-- The column types of the classes, each of which is tried after those before it. -/
def typeMap : List (TypeClass × ColumnType) := [
  (.boolean, .bool), (.integer, .int), (.float, .float), (.numeric, .decimal),
  (.dateTime, .timestamp), (.date, .date), (.uuid, .uuid), (.json, .json), (.string, .string)]

namespace Column

/-- The column type of the first class that the type is of. Any other type is taken for text. -/
def logicalType (c : Column) : ColumnType :=
  ((typeMap.find? fun e => c.isOf e.1).map Prod.snd).getD .string

/-- Columns of which nothing is said allow nulls. -/
def allowsNull (c : Column) : Bool := !c.nullable matches .bool false

end Column

/-- How the tables of a database are named: the names for callers and the ids. -/
structure Naming where
  database : String
  apiName : String → String
  tableId : String → String

/-- A name with underscores as one word: all parts but the first in title case. -/
def camelCase (name : String) : String :=
  match name.toList.splitOn '_' with
  | [] => name
  | first :: rest => String.ofList (first ++ rest.flatMap Text.titled)

namespace Naming

/-- Physical names for callers, and ids with the database in front. -/
def physical (database : String) : Naming := ⟨database, id, fun name => database ++ "." ++ name⟩

variable {ε : Type} (n : Naming)

/-- The column of a declared column. It is indexed where it was declared to be, and otherwise
where it was plainly declared to be a key. -/
def column (c : Column) : Except (Obstacle ε) Polystore.Column := do
  let indexed ← if c.index.isPresent then .ok true else
    (((Decoding.truth c.primaryKey).under (.member "indexed")).mapError Obstacle.unreadable)
  return {
    apiName := n.apiName c.name, physicalName := c.name, type := c.logicalType,
    nullable := c.allowsNull, indexed }

/-- The relation of a foreign key to its target, if that is in a table of some names. -/
def relation? (known : List String) (key : ForeignKey ε)
    : Except (Obstacle ε) (Option Relation) :=
  match key.target with
  | .error failure => .error (.library failure)
  | .ok target =>
    .ok (if known.contains target.table then
      some ⟨n.apiName key.parent, n.tableId target.table, n.apiName target.column, .manyToOne⟩
      else none)

/-- The relations of a table to tables of some names, in the order of their columns. -/
def relations (known : List String) (t : Table ε) : Except (Obstacle ε) (List Relation) := do
  let keys := t.foreignKeys.mergeSort fun a b => a.parent ≤ b.parent
  let found ← keys.mapM (n.relation? known)
  return found.filterMap id

def table (known : List String) (t : Table ε) : Except (Obstacle ε) Polystore.Table := do
  let columns ← t.columns.mapM n.column
  let relations ← n.relations known t
  return {
    id := n.tableId t.name, apiName := n.apiName t.name, database := n.database,
    physicalName := t.name, columns, primaryKey := t.primaryKey.map n.apiName, relations }

/-- The metadata tables of declared tables, or of those of some names, in the order of the
library. -/
def tables (included : Option (List String)) (m : MetaData ε)
    : Except (Obstacle ε) (List Polystore.Table) := do
  let all ← m.sortedTables.mapError .library
  let chosen := all.filter fun t => included.all (·.contains t.name)
  chosen.mapM (n.table (chosen.map (·.name)))

end Naming

end Polystore.Schema
