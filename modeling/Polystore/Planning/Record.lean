import Polystore.Planning.Plan

/-!
Queries under access control and plans as values.
-/

namespace Polystore

namespace Condition

/-- The condition as a list: column, operator, value and source. -/
def toValue (c : Condition ColumnRef) : Value :=
  .list [.text c.column.path, c.op.value, c.value, .ofWord c.source]

end Condition

namespace ColumnRef

/-- The reference as a list: table, column, whether it is qualified, and label. -/
def toValue (r : ColumnRef) : Value :=
  .list [.text r.table, .text r.column, .bool r.qualified, .text r.label]

end ColumnRef

namespace ScopedQuery

def toValue (s : ScopedQuery) : Value :=
  let count (source : Source) : Value := .int (s.filters.countP (·.source == source))
  .object [
    ("selection", .list (s.selection.map (·.toValue))),
    ("filters", .list (s.filters.map (·.toValue))), ("user", count .caller),
    ("rls", count .rowRule),
    ("scopes", .list (s.scopes.map fun (name, scope) => .list [
      .text name, .ofTexts scope.allowed, .list (scope.rows.map (·.toValue)),
      .ofTexts ((s.selection.filter (·.table == name)).map (·.column))]))]

end ScopedQuery

namespace CacheHit

def toValue (hit : CacheHit) : Value := .object [
  ("rows", .list (hit.rows.map fun (id, row) => .list [id, .object row])),
  ("served_ids", .list hit.served), ("fallback_ids", .list hit.fallback),
  ("database", .text hit.database), ("complete", .bool hit.isComplete)]

end CacheHit

namespace Plan

def toValue (p : Plan) : Value := .object [
  ("strategy", .text p.route.strategy), ("target", .text p.route.target),
  ("engine", .ofText? p.engine), ("needs_sql", .bool p.needsSql),
  ("freshness", .ofWord p.freshness), ("by_ids", .ofOption .list p.ids),
  ("fallback_ids", .list p.fallback),
  ("assignments", .list (p.assignments.map fun (name, a) => .list [
    .text name, .text a.copy.database, .text a.copy.kindName, .text a.copy.physicalName,
    .ofText? a.catalog, .ofText? a.schema])),
  ("cache", .ofOption CacheHit.toValue p.route.hit?), ("describe", .object p.summary)]

end Plan

end Polystore
