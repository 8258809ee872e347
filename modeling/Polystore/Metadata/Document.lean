import Polystore.Metadata.Freshness
import Polystore.Operator
import Polystore.Value.Text

/-!
Metadata documents: the databases, the logical tables with their columns and relations, the copies
of tables kept in other databases, the tables that a cache may serve, and the rules of each role.
Every table and column has a name for callers and a physical name.
-/

namespace Polystore

inductive Engine where
  | postgres
  | clickhouse
  | iceberg
  deriving DecidableEq, Inhabited

namespace Engine

instance : Vocabulary Engine where
  members := [postgres, clickhouse, iceberg]
  name
    | postgres => "postgres"
    | clickhouse => "clickhouse"
    | iceberg => "iceberg"

def name (e : Engine) : String := Vocabulary.name e

/-- The schema of a database that names none. -/
def standardSchema : Engine → String
  | postgres => "public"
  | clickhouse | iceberg => "default"

end Engine

inductive ColumnType where
  | string
  | int
  | float
  | decimal
  | date
  | timestamp
  | uuid
  | bool
  | json
  deriving DecidableEq, Inhabited

namespace ColumnType

instance : Vocabulary ColumnType where
  members := [string, int, float, decimal, date, timestamp, uuid, bool, json]
  name
    | string => "string"
    | int => "int"
    | float => "float"
    | decimal => "decimal"
    | date => "date"
    | timestamp => "timestamp"
    | uuid => "uuid"
    | bool => "bool"
    | json => "json"

def name (t : ColumnType) : String := Vocabulary.name t

def isNumeric (t : ColumnType) : Bool := t ∈ [int, float, decimal]

def isTemporal (t : ColumnType) : Bool := t ∈ [date, timestamp]

end ColumnType

/-- How many rows a relation links, seen from the table that declares it. -/
inductive Cardinality where
  | manyToOne
  | oneToMany
  | oneToOne
  deriving DecidableEq, Inhabited

namespace Cardinality

instance : Vocabulary Cardinality where
  members := [manyToOne, oneToMany, oneToOne]
  name
    | manyToOne => "many-to-one"
    | oneToMany => "one-to-many"
    | oneToOne => "one-to-one"

end Cardinality

/-- How a copy is kept up to date. -/
inductive Replication where
  | debezium
  deriving DecidableEq, Inhabited

namespace Replication

instance : Vocabulary Replication where
  members := [debezium]
  name _ := "debezium"

end Replication

structure Database where
  id : String
  engine : Engine
  catalog : Option String
  schemaName : Option String
  deriving DecidableEq, Inhabited

namespace Database

/-- The schema that qualifies the tables of the database next to its catalog. -/
def schema (d : Database) : String :=
  match d.schemaName with
  | some name => if name.isEmpty then d.engine.standardSchema else name
  | none => d.engine.standardSchema

/-- Whether the database has a catalog of a name. -/
def hasCatalog (d : Database) : Bool := d.catalog.any fun name => !name.isEmpty

end Database

structure Column where
  apiName : String
  physicalName : String
  type : ColumnType
  nullable : Bool
  indexed : Bool
  deriving DecidableEq, Inhabited

/-- A link from a column of the table that declares it to a column of the table of an id. -/
structure Relation where
  sourceColumn : String
  targetTable : String
  targetColumn : String
  kind : Cardinality
  deriving DecidableEq, Inhabited

structure Table where
  id : String
  apiName : String
  database : String
  physicalName : String
  columns : List Column
  primaryKey : List String
  relations : List Relation
  deriving DecidableEq, Inhabited

namespace Table

def columnNames (t : Table) : List String := t.columns.map (·.apiName)

/-- The first column of a name. -/
def column? (t : Table) (name : String) : Option Column :=
  t.columns.find? fun c => c.apiName == name

end Table

/-- A copy of a table in another database. -/
structure Sync where
  sourceTable : String
  targetDatabase : String
  targetPhysicalName : String
  method : Replication
  estimatedLag : Freshness
  deriving DecidableEq, Inhabited

/-- A table whose rows the cache may hold, under keys of a pattern. -/
structure CachedTable where
  table : String
  keyPattern : String
  ttl : Option Int
  columns : Option (List String)
  deriving DecidableEq, Inhabited

/-- A condition that rows must meet for a role; its value comes from the context. -/
structure RowRule where
  column : String
  operator : RowOperator
  contextKey : Option String
  deriving DecidableEq, Inhabited

/-- Which columns of a table a role may read. -/
inductive AllowedColumns where
  | all
  | only (names : List String)
  deriving DecidableEq, Inhabited

/-- What one role may see of one table. -/
structure TableRule where
  table : String
  allowed : AllowedColumns
  rows : List RowRule
  deriving DecidableEq, Inhabited

structure Role where
  id : String
  tables : List TableRule
  deriving DecidableEq, Inhabited

structure Document where
  databases : List Database
  tables : List Table
  syncs : List Sync
  caches : List CachedTable
  roles : List Role
  federation : Bool
  deriving DecidableEq, Inhabited

end Polystore
