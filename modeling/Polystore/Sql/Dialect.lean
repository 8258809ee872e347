import Polystore.Order
import Polystore.Refusal
import Polystore.Sql.Piece
import Polystore.Statement.Basic
import Polystore.Value.Equality

/-!
Dialects of SQL. A dialect says how names are quoted and parameters marked, and how membership,
truncated times, truth values, tables and paging are written.
-/

namespace Polystore

namespace Sql

variable {ν : Type} [Statement.Nominal ν]

/-- A name, to be quoted. Nothing but a text can be. -/
def name (x : ν) : Except Failure Piece :=
  match Statement.Nominal.value x with
  | .text s => .ok (.name s)
  | _ => .error (.fault .noText)

/-- Names with points between them. -/
def path (names : List ν) : Except Failure Sql := do
  return (← names.mapM name).intersperse (.text ".")

end Sql

structure Dialect where
  name : String
  quote : String → String
  /-- The mark of a parameter, given the text of its number. -/
  placeholder : String → String
  /-- A column among the elements of a list. -/
  membership : Sql → Sql → Sql
  /-- The functions that truncate to the granularities, where no other granularity is known. -/
  truncating : Option (Granularity → String)
  truth : Bool → String
  /-- Whether every table is named with catalog and schema. -/
  qualified : Bool
  offsetFirst : Bool

namespace Dialect

/-- A name in double quotes, each of which is doubled inside. -/
def doubleQuoted (s : String) : String :=
  let inner := s.toList.flatMap fun c => if c = '"' then ['"', '"'] else [c]
  String.ofList ('"' :: inner ++ ['"'])

/-- A name in back quotes, each of which has a backslash in front inside. -/
def backQuoted (s : String) : String :=
  let inner := s.toList.flatMap fun c => if c = '\x60' then ['\\', '\x60'] else [c]
  String.ofList ('\x60' :: inner ++ ['\x60'])

/-- The function that goes back to the start of a granularity. -/
def startFunction : Granularity → String
  | .hour => "toStartOfHour"
  | .day => "toStartOfDay"
  | .week => "toMonday"
  | .month => "toStartOfMonth"
  | .quarter => "toStartOfQuarter"
  | .year => "toStartOfYear"

def postgres : Dialect where
  name := "postgres"
  quote := doubleQuoted
  placeholder number := "$" ++ number
  membership column list := column ++ .text " = ANY(" :: list ++ [.text ")"]
  truncating := none
  truth b := if b then "TRUE" else "FALSE"
  qualified := false
  offsetFirst := false

def clickhouse : Dialect where
  name := "clickhouse"
  quote := backQuoted
  placeholder _ := "?"
  membership column list := .text "has(" :: list ++ .text ", " :: column ++ [.text ")"]
  truncating := some startFunction
  truth b := if b then "1" else "0"
  qualified := false
  offsetFirst := false

def trino : Dialect where
  name := "trino"
  quote := doubleQuoted
  placeholder _ := "?"
  membership column list := .text "contains(" :: list ++ .text ", " :: column ++ [.text ")"]
  truncating := none
  truth b := if b then "TRUE" else "FALSE"
  qualified := true
  offsetFirst := true

def duckdb : Dialect := { postgres with name := "duckdb", placeholder := fun _ => "?" }

def render (d : Dialect) (sql : Sql) : String := sql.renderFrom d.quote d.placeholder 1

section

variable {ν : Type} [Statement.Nominal ν]

/-- The name of a table, with catalog and schema where the dialect wants them. -/
def table (d : Dialect) (t : Statement.TableName ν) : Except Failure Sql :=
  if d.qualified then
    match t.catalog.filter Statement.Nominal.isPresent with
    | none => .error (.refused (.inexpressible (.noCatalog (Statement.Nominal.display t.apiName))))
    | some catalog =>
      let schema := t.schema.filter Statement.Nominal.isPresent
      Sql.path [catalog, schema.getD (Statement.Nominal.ofText "default"), t.physicalName]
  else Sql.path [t.physicalName]

end

/-- A column truncated to the granularity that a value names. -/
def truncation (d : Dialect) (granularity : Value) (column : Sql) : Except Failure Sql :=
  match d.truncating, granularity.write with
  | none, .ok name => .ok (.text s!"date_trunc('{name}', " :: column ++ [.text ")"])
  | none, .error failure => .error (.unwritable failure)
  | some function, written =>
    if granularity.isCollection then .error (.fault .noKey)
    else
      match written.map fun name => (name, Vocabulary.ofName? name) with
      | .ok (_, some g) => .ok (.text s!"{function g}(" :: column ++ [.text ")"])
      | .ok (name, none) => .error (.refused (.inexpressible (.truncation "ClickHouse" name)))
      | .error failure => .error (.unwritable failure)

/-- A line of a keyword and a whole number. -/
def pagingLine (keyword : String) (v : Value) : Except Fault String :=
  match v.whole.map fun i => (Value.int i).write with
  | .ok (.ok digits) => .ok s!"{keyword} {digits}"
  | .ok (.error failure) => .error (.unwritable failure)
  | .error failure => .error (.noWhole failure)

/-- The lines for limit and offset; no limit and an offset of nothing need none. -/
def paging (d : Dialect) (limit offset : Value) : Except Fault (List String) :=
  let limits := if limit.isNull then [] else [("LIMIT", limit)]
  let offsets := if offset.isPresent then [("OFFSET", offset)] else []
  let lines := if d.offsetFirst then offsets ++ limits else limits ++ offsets
  lines.mapM fun (keyword, v) => pagingLine keyword v

end Dialect

/-- The dialects by the key of an engine, which is a text unless someone has chosen another. -/
abbrev Dialects := Entries Value Dialect

namespace Dialects

def standard : Dialects := [
  (.text "clickhouse", .clickhouse), (.text "postgres", .postgres), (.text "trino", .trino)]

/-- Makes a dialect known under a key, which may not be a collection. -/
def register (ds : Dialects) (key : Value) (d : Dialect) : Except Fault Dialects :=
  if key.isCollection then .error .noKey else .ok (ds.put key d)

/-- The keys in order, if they are texts. -/
def names (ds : Dialects) : Except Fault (List String) :=
  sorted <$> (Entries.keys ds).mapM fun
    | .text name => .ok name
    | _ => .error .noOrder

/-- The dialect of a key. -/
def find (ds : Dialects) (key : Value) : Except Failure Dialect :=
  if key.isCollection then .error (.fault .noKey)
  else
    match ds.lookup key, key.write, ds.names with
    | some d, _, _ => .ok d
    | none, .error failure, _ => .error (.unwritable failure)
    | none, .ok _, .ok names => .error (.refused (.inexpressible (.unknownDialect key names)))
    | none, .ok _, .error fault => .error (.fault fault)

end Dialects

end Polystore
