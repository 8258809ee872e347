import Polystore.Decoding.Issue
import Polystore.Fault
import Polystore.Metadata.Integrity
import Polystore.Validation.Issue

/-!
Refusals: the failures that are reported to callers, each with a code, a message and details. A
failure is a refusal or a fault.
-/

namespace Polystore

/-- The steps of answering a query, each of which a cancellation may prevent. -/
inductive Stage where
  | validation
  | rowRules
  | planning
  | nameResolution
  | generation
  | execution
  deriving DecidableEq

namespace Stage

def name : Stage → String
  | validation => "validation"
  | rowRules => "rls"
  | planning => "planning"
  | nameResolution => "name-resolution"
  | generation => "sql-generation"
  | execution => "execution"

end Stage

/-- Why there is no catalog of a metadata document. -/
inductive Misconfiguration where
  | missingFile (path : String)
  | directory (path : String)
  | noJson (path source : String) (failure : Json.Failure)
  | malformed (issues : List Decoding.Issue)
  | notIntact (problems : List Problem)

namespace Misconfiguration

def summary : Misconfiguration → String
  | missingFile path =>
    s!"Cannot read metadata file '{path}': [Errno 2] No such file or directory: '{path}'"
  | directory path =>
    s!"Cannot read metadata file '{path}': [Errno 21] Is a directory: '{path}'"
  | noJson path source failure =>
    s!"Metadata file '{path}' is not valid JSON: {failure.message source}"
  | malformed _ => "Metadata document is malformed."
  | notIntact problems => s!"Metadata failed {problems.length} integrity check(s)."

def lines : Misconfiguration → List String
  | malformed issues => issues.map (·.line)
  | notIntact problems => problems.map (·.message)
  | _ => []

/-- The summary, and a line for each problem. -/
def message (m : Misconfiguration) : String :=
  "\n".intercalate (m.summary :: m.lines.map fun line => "  - " ++ line)

end Misconfiguration

/-- Why a table cannot be reached together with the table that a query starts from: in short, and
for every place that was considered. -/
structure Unreachable where
  table : String
  reason : String
  checked : Entries String String

namespace Unreachable

def toValue (u : Unreachable) : Value := .object [
  ("table", .text u.table), ("reason", .text u.reason),
  ("checked", .object (u.checked.map fun (place, why) => (place, .text why)))]

end Unreachable

/-- What SQL cannot express. -/
inductive Inexpressible where
  | servedFromCache
  | noRelation (source target : String)
  | noColumns
  | aggregateWithoutColumn (fn : Value)
  | aggregate (fn : Value)
  | operator (op : Value)
  | truncation (language granularity : String)
  | noCatalog (table : String)
  | unknownDialect (key : Value) (known : List String)

namespace Inexpressible

def message : Inexpressible → String
  | servedFromCache => "A plan served from the cache has no SQL."
  | noRelation source target => s!"No relation between '{source}' and '{target}'."
  | noColumns => "The query selects no columns."
  | aggregateWithoutColumn fn => s!"Aggregate '{fn.display}' needs a column."
  | aggregate fn => s!"Unsupported aggregate '{fn.display}'."
  | operator op => s!"Unsupported operator '{op.display}'."
  | truncation language granularity => s!"{language} cannot truncate to '{granularity}'."
  | noCatalog table => s!"Table '{table}' has no Trino catalog."
  | unknownDialect key known =>
    s!"No SQL dialect for engine '{key.display}'. Known engines: {Value.inspectNames known}."

/-- The construct that cannot be expressed. -/
def construct : Inexpressible → Value
  | servedFromCache => .text "plan"
  | noRelation _ _ => .text "join"
  | noColumns => .text "SELECT"
  | aggregateWithoutColumn fn | aggregate fn => fn
  | operator op => op
  | truncation _ _ => .text "date_trunc"
  | noCatalog _ => .text "qualify_table"
  | unknownDialect _ _ => .text "dialect"

end Inexpressible

inductive Refusal where
  | misconfigured (m : Misconfiguration)
  | invalid (issues : List Validation.Issue)
  | tableDenied (role table : String)
  | columnDenied (role table column : String) (allowed : List String)
  | missingContext (table column key : String)
  | unreachable (tables : List Unreachable)
  | inexpressible (what : Inexpressible)
  | fallbackFailed (table : String) (ids : List Value) (cause : Outage)
  | cancelled (before : Stage)
  | noExecutor

namespace Refusal

def code : Refusal → String
  | misconfigured _ => "CONFIG_ERROR"
  | invalid _ => "VALIDATION_ERROR"
  | tableDenied _ _ | columnDenied _ _ _ _ => "ACCESS_DENIED"
  | missingContext _ _ _ => "MISSING_CONTEXT"
  | unreachable _ => "PLANNING_ERROR"
  | inexpressible _ => "GENERATION_ERROR"
  | fallbackFailed _ _ _ => "CACHE_FALLBACK_FAILED"
  | cancelled _ => "CANCELLED"
  | noExecutor => "NO_EXECUTOR"

def message : Refusal → String
  | misconfigured m => m.message
  | invalid issues =>
    let summary := "; ".intercalate (issues.map (·.message))
    s!"Query failed validation with {issues.length} issue(s): {summary}"
  | tableDenied role table => s!"Role '{role}' has no access to table '{table}'."
  | columnDenied role table column _ =>
    s!"Role '{role}' may not read column '{column}' on table '{table}'."
  | missingContext table column key =>
    s!"Context value '{key}' is required to filter '{table}.{column}' but was not supplied."
  | unreachable tables =>
    let names := ", ".intercalate (tables.map (·.table))
    s!"No execution strategy can reach table(s): {names}."
  | inexpressible what => what.message
  | fallbackFailed table _ _ =>
    s!"Database fallback for '{table}' failed; partial cache data discarded."
  | cancelled before => s!"Query cancelled before stage '{before.name}'."
  | noExecutor => "execute() requires an executor."

def details : Refusal → Row
  | misconfigured m => [("problems", .ofTexts m.lines)]
  | invalid issues => [("issues", .list (issues.map (·.toValue)))]
  | tableDenied role table => [
      ("role", .text role), ("table", .text table), ("column", .null),
      ("allowed_columns", .list [])]
  | columnDenied role table column allowed => [
      ("role", .text role), ("table", .text table), ("column", .text column),
      ("allowed_columns", .ofTexts allowed)]
  | missingContext table column key => [
      ("table", .text table), ("column", .text column), ("context_key", .text key)]
  | unreachable tables => [("unreachable", .list (tables.map (·.toValue)))]
  | inexpressible what => [("construct", what.construct)]
  | fallbackFailed table ids _ => [("table", .text table), ("missing_ids", .list ids)]
  | cancelled before => [("stage", .text before.name)]
  | noExecutor => []

end Refusal

inductive Failure where
  | refused (r : Refusal)
  | fault (f : Fault)

namespace Failure

/-- A value could not be written. -/
def unwritable (failure : Value.WriteFailure) : Failure := .fault (.unwritable failure)

def message : Failure → String
  | refused r => r.message
  | fault f => f.message

end Failure

end Polystore
