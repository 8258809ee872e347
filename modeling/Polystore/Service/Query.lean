import Polystore.Cache.Merge
import Polystore.Planning.Planner
import Polystore.Query.Reader
import Polystore.Service.Course
import Polystore.Sql.Generation
import Polystore.Statement.Resolution
import Polystore.Validation.Query

/-!
Answering queries. A query is validated, put under access control, planned, given physical names and
written as SQL; executing it runs that SQL, or takes rows from the cache, or both. Rows of the cache
are never returned when the rows that belong with them cannot be fetched.
-/

namespace Polystore

/-- Runs a statement: the rows of the backend, or its failure. -/
abbrev Executor := Call → Except Outage (List Row)

structure Service where
  catalog : Catalog
  facilities : Facilities
  standardFreshness : Freshness
  dialects : Dialects
  executor : Option Executor

/-- What a query comes to before it is executed. -/
structure Prepared where
  plan : Plan
  statement : Option (Statement String × Compiled)

/-- The answer to a query; it has rows when the query was executed. -/
structure Answer where
  prepared : Prepared
  rows : Option (List Row)

namespace Answer

def toMembers (a : Answer) : Row :=
  let compiled := a.prepared.statement.map Prod.snd
  let plan := a.prepared.plan
  [("data", .ofOption (fun rows => .list (rows.map .object)) a.rows),
    ("sql", .ofText? (compiled.map (·.sql))),
    ("params", .list ((compiled.map (·.params)).getD [])),
    ("dialect", .ofText? (compiled.map (·.dialect))),
    ("target_database", .text plan.route.target), ("strategy", .text plan.route.strategy),
    ("cache_ids", .list plan.served), ("fallback_ids", .list plan.fallback)]

end Answer

namespace Service

variable (s : Service)

/-- Validates a query and records the outcome. -/
def validate (c : Catalog) (q : Query) (role : String) : Traced Unit :=
  match Validation.issues c q with
  | [] => .note .validation "Query is valid" [
      ("role", .text role), ("tables", .ofTexts q.tableNames)]
  | issue :: rest => do
    let issues := issue :: rest
    .note .validation "Query rejected" [
      ("role", .text role), ("issues", .list (issues.map (·.toValue)))]
    .refuse (.invalid issues)

/-- Writes the SQL of a statement in the dialect of its engine. -/
def compile (statement : Statement String) : Traced Compiled :=
  match s.dialects.find (.text statement.engine) with
  | .ok d => Compiled.generate d statement
  | .error failure => .fail failure

/-- The stages that a query goes through. What they log shows the role and the table. -/
def stages (q : Query) (context : Context) (cancellation : Cancellation) : Course Prepared := do
  let surroundings : Row := [("role", .text context.role), ("table", .text q.source)]
  .checkpoint cancellation .validation
  .ofTraced ((validate s.catalog q context.role).within surroundings)
  .checkpoint cancellation .rowRules
  let granted ← .ofTraced ((Access.apply s.catalog q context).within surroundings)
  .checkpoint cancellation .planning
  let tolerance := q.freshness.getD s.standardFreshness
  let plan ← .ofTraced
    ((Planning.plan s.catalog s.facilities granted context tolerance).within surroundings)
  if !plan.needsSql then return ⟨plan, none⟩
  .checkpoint cancellation .nameResolution
  let statement ← .ofTraced ((Statement.resolve plan).within surroundings)
  .checkpoint cancellation .generation
  let compiled ← .ofTraced ((s.compile statement).within surroundings)
  return ⟨plan, some (statement, compiled)⟩

/-- Prepares a query for execution. -/
def prepare (q : Query) (context : Context) (cancellation : Cancellation) : Course Prepared := do
  let prepared ← s.stages q context cancellation
  match prepared.statement with
  | none => return prepared
  | some (_, compiled) =>
    .ofTraced (.log .info "query_resolved" [
      ("strategy", .text prepared.plan.route.strategy),
      ("target", .text prepared.plan.route.target), ("dialect", .text compiled.dialect)])
    return prepared

/-- Runs compiled SQL: what the executor says of it. -/
def run (compiled : Compiled) : Traced (Except Outage (List Row)) :=
  match s.executor with
  | none => .refuse .noExecutor
  | some executor => do
    let call : Call := ⟨compiled.sql, compiled.params, compiled.target⟩
    .record (.ran call)
    return executor call

/-- The rows of a statement, under their labels. -/
def runStatement (statement : Statement String) (compiled : Compiled) : Traced (List Row) := do
  match ← s.run compiled with
  | .error o => .fail (.fault (.outage o))
  | .ok rows =>
    .note .execution "Query executed" [
      ("target", .text compiled.target), ("rows", .int rows.length)]
    return rows.map statement.restore

/-- The rows that the cache did not give, under their labels. -/
def runFallback (q : Query) (hit : CacheHit) (statement : Statement String) (compiled : Compiled)
    : Traced (List Row) := do
  match ← s.run compiled with
  | .error o =>
    .note .execution "Cache fallback failed" [
      ("target", .text compiled.target), ("error", .text o.message)]
    .log .error "cache_fallback_failed" [("table", .text q.source), ("error", .text o.message)]
    .refuse (.fallbackFailed q.source hit.fallback o)
  | .ok rows => return rows.map statement.restore

/-- The key column of the table that a query starts from. -/
def keyColumn (plan : Plan) : Except Failure String := do
  let scope ← Statement.scope plan plan.query.source
  match scope.table.primaryKey with
  | [] => .error (.fault .noFirst)
  | key :: _ => return key

/-- The rows of a cache hit, with those fetched for the ids it left open. -/
def completeHit (prepared : Prepared) (hit : CacheHit) : Traced (List Row) := do
  let plan := prepared.plan
  let key ← .ofExcept (keyColumn plan)
  let cached := hit.visibleRows
  let fetched ← match prepared.statement with
    | none => pure []
    | some (statement, compiled) => s.runFallback plan.query hit statement compiled
  let rows ← .ofExcept
    ((Cache.merged cached fetched plan.granted.selection key).mapError .unwritable)
  .note .execution "Cache rows merged" [
    ("cached", .int cached.length), ("fetched", .int fetched.length), ("rows", .int rows.length)]
  return rows

/-- The rows of a prepared query. -/
def rows (prepared : Prepared) : Traced (List Row) :=
  match prepared.plan.route.hit?, prepared.statement with
  | some hit, _ => s.completeHit prepared hit
  | none, some (statement, compiled) => s.runStatement statement compiled
  | none, none => .fail (.fault .absent)

/-- Plans a query without executing it. -/
def plan (q : Query) (context : Context) (cancellation : Cancellation) : Course Answer := do
  return ⟨← s.prepare q context cancellation, none⟩

/-- Executes a query. -/
def execute (q : Query) (context : Context) (cancellation : Cancellation) : Course Answer := do
  let prepared ← s.prepare q context cancellation
  .checkpoint cancellation .execution
  let rows ← .ofTraced (s.rows prepared)
  return ⟨prepared, some rows⟩

/-- Reads an input, or refuses it with all that is wrong with it. -/
def coerce {α : Type} (decode : Decoding.Decoder α) (name : String) (input : Value)
    : Except Failure α :=
  match decode input with
  | .ok a => .ok a
  | .error issues => .error (.refused (.invalid (issues.map (.ofInput name))))

/-- Reads a query and its context. -/
def coerceBoth (query context : Value) : Except Failure (Query × Context) := do
  let q ← coerce Query.decode "query" query
  return (q, ← coerce Context.decode "context" context)

end Service

end Polystore
