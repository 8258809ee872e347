import Polystore.Access
import Polystore.Copies

/-!
Plans: how a query is answered and from which copy of each of its tables.
-/

namespace Polystore

/-- Rows found in the cache. Served are the ids that need no statement, whether their rows are
visible or hidden by a row rule. -/
structure CacheHit where
  rows : List (Value × Row)
  served : List Value
  fallback : List Value
  database : String

namespace CacheHit

/-- Whether the cache answers for every id. -/
def isComplete (hit : CacheHit) : Bool := hit.fallback.isEmpty

/-- The visible row of an id. -/
def row? (hit : CacheHit) (id : Value) : Option Row :=
  (hit.rows.find? fun r => r.1.same id).map Prod.snd

/-- The visible rows, in the order of the ids served. -/
def visibleRows (hit : CacheHit) : List Row := hit.served.filterMap hit.row?

end CacheHit

/-- How a query is answered: from the cache, by the database that is home to all tables, by
one that holds a copy of every table, or across databases. -/
inductive Route where
  | cached (hit : CacheHit)
  | direct (database : String)
  | materialized (database : String)
  | federated

namespace Route

def strategy : Route → String
  | cached _ => "cache"
  | direct _ => "direct"
  | materialized _ => "materialized"
  | federated => "trino-cross-db"

/-- The place where the statement runs; a route that needs none ends at the cache. -/
def target : Route → String
  | cached hit => if hit.isComplete then "cache" else hit.database
  | direct database | materialized database => database
  | federated => "trino"

def hit? : Route → Option CacheHit
  | cached hit => some hit
  | _ => none

end Route

/-- The copy that serves a table, with catalog and schema where the statement names them. -/
structure Assignment where
  copy : Copy
  catalog : Option String
  schema : Option String

structure Plan where
  route : Route
  engine : Option String
  assignments : Entries String Assignment
  granted : ScopedQuery
  freshness : Freshness
  ids : Option (List Value)

namespace Plan

def query (p : Plan) : Query := p.granted.query

def needsSql (p : Plan) : Bool := p.engine.isSome

/-- The ids left to a statement after a cache hit. -/
def fallback (p : Plan) : List Value := (p.route.hit?.map (·.fallback)).getD []

/-- The ids answered by the cache. -/
def served (p : Plan) : List Value := (p.route.hit?.map (·.served)).getD []

/-- The plan in short. -/
def summary (p : Plan) : Row := [
  ("strategy", .text p.route.strategy), ("target", .text p.route.target),
  ("tables", .object (p.assignments.map fun (name, a) =>
    (name, .object [
      ("database", .text a.copy.database), ("copy", .text a.copy.kindName)])))]

end Plan

end Polystore
