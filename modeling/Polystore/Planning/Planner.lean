import Polystore.Cache.CachedRow
import Polystore.Cache.Key
import Polystore.Cache.Store
import Polystore.Planning.Plan
import Polystore.Runtime

/-!
Planning. The routes are tried in order of preference: the cache, a database that is home to all
tables, a database with a fresh enough copy of every table, and federation of the home databases.
The first that applies is taken; when none does, the report says what stands in the way of each
table.
-/

namespace Polystore

/-- What planning may use besides the catalog. -/
structure Facilities where
  federation : Bool
  cache : Option Cache
  cacheEnabled : Bool
  runtime : Runtime

namespace Planning

/-- What a query is planned with. -/
structure Setting where
  catalog : Catalog
  facilities : Facilities
  granted : ScopedQuery
  tables : List Table
  context : Context
  tolerance : Freshness

/-- How deep the texts that the cache gives may be nested. -/
abbrev Setting.nesting (s : Setting) : Nat := s.facilities.runtime.nesting

/-- The attributes that the keys of the cache may be made of. -/
abbrev Setting.objects (s : Setting) : Template.Objects := s.facilities.runtime.objects

/-- The columns that a cached row has to hold. -/
def neededColumns (s : Setting) (t : Table) : List String :=
  s.granted.selection.map (·.column) ++ s.granted.rowConditions.map (·.column.column)
    ++ t.primaryKey

/-- The needed columns that cached rows do not hold, in order. -/
def lackingColumns (s : Setting) (t : Table) (held : List String) : List String :=
  sortedOnce ((neededColumns s t).filter fun name => !held.contains name)

/-- A lookup that the cache may answer: its table, what is cached of it, and the cache. -/
structure Lookup where
  table : Table
  entry : CachedTable
  cache : Cache

/-- The lookup of a query, or why the cache cannot answer it. -/
def lookup (s : Setting) : Except String Lookup :=
  let q := s.granted.query
  if q.idList.isEmpty then .error "not a byIds lookup"
  else
    match s.tables with
    | [t] =>
      if !q.filters.isEmpty then .error "query has additional filters"
      else if q.isAggregate || q.mode != .rows then .error "query is not a plain row lookup"
      else if !q.orderBy.isEmpty || q.limit.isSome || q.offset.isSome then
        .error "query pages or orders results"
      else
        match s.facilities.cacheEnabled, s.facilities.cache with
        | true, some cache =>
          match s.catalog.cacheOf? t with
          | none => .error s!"table '{t.apiName}' is not cached"
          | some entry =>
            let lacking := match entry.columns with
              | none => []
              | some held => lackingColumns s t held
            if lacking.isEmpty then .ok ⟨t, entry, cache⟩
            else .error s!"cached value lacks columns {Value.inspectNames lacking}"
        | _, _ => .error "cache disabled"
    | _ => .error "query touches more than one table"

/-- What was found under the keys of some ids: the visible rows, and the ids served. -/
structure Found where
  rows : List (Value × Row)
  served : List Value

variable (nesting : Nat) in
/-- Sorts out what the cache gave for ids and keys. A value that holds no row, or a row that lacks
a column of a row rule, does not count. -/
def sift (values : Entries String Value) (conditions : List (Condition ColumnRef))
    : List (Value × String) → Except Fault Found
  | [] => .ok ⟨[], []⟩
  | (id, key) :: rest => do
    match ← Cache.row? nesting ((values.lookup key).getD .null) with
    | none => sift values conditions rest
    | some row =>
      if row.covers conditions then
        let visible ← row.meets conditions
        let found ← sift values conditions rest
        return ⟨if visible then (id, row) :: found.rows else found.rows, id :: found.served⟩
      else sift values conditions rest

def skipCache (reason : String) : Traced (Option Route) := do
  .note .cache "Cache strategy skipped" [("reason", .text reason)]
  return none

/-- The hit for what was found, if anything was. -/
def hit (t : Table) (ids : List Value) (found : Found) : Traced (Option Route) := do
  let fallback := ids.filter fun id => !id.isAmong found.served
  .note .cache "Cache lookup finished" [
    ("requested", .int ids.length), ("hits", .int found.served.length),
    ("hidden_by_rls", .int (found.served.length - found.rows.length : Nat)),
    ("fallback_ids", .list fallback)]
  return if found.served.isEmpty then none
    else some (.cached ⟨found.rows, found.served, fallback, t.database⟩)

/-- Reads the rows of ids from the cache. -/
def readCache (s : Setting) (l : Lookup) (ids : List Value) (keys : List (Value × String))
    : Traced (Option Route) := do
  .record (.readCache (keys.map Prod.snd))
  match l.cache.read (keys.map Prod.snd) with
  | .error o =>
    .log .warning "cache_read_failed" [
      ("table", .text l.table.apiName), ("error", .text o.message)]
    .note .cache "Cache read failed" [("error", .text o.message)]
    return none
  | .ok values =>
    let conditions := ((s.granted.scopes.lookup l.table.apiName).map (·.rows)).getD []
    match sift s.nesting values conditions keys with
    | .error fault => .fail (.fault fault)
    | .ok found => hit l.table ids found

/-- The route through the cache, for a lookup of rows of one table by ids. -/
def throughCache (s : Setting) : Traced (Option Route) :=
  match lookup s with
  | .error reason => skipCache reason
  | .ok l =>
    let ids := Value.distinct s.granted.query.idList
    match Cache.keys s.objects l.entry.keyPattern s.context.values ids with
    | .ok keys => readCache s l ids keys
    | .error (.missingField name) => skipCache s!"key pattern field '{name}' has no value"
    | .error fault => .fail (.fault fault)

/-- The route to the database that is home to all tables. -/
def direct (s : Setting) : Traced (Option Route) :=
  match (s.tables.map (·.database)).eraseDups with
  | [database] => return some (.direct database)
  | _ => do
    .note .planning "Direct strategy rejected" [
      ("originals", .object (s.tables.map fun t => (t.apiName, .text t.database)))]
    return none

def noCopy : String := "no original/replica present"

/-- Why a table cannot be served from a database. -/
def obstacle (s : Setting) (t : Table) (database : String) : Option String :=
  match s.catalog.copyIn? t database with
  | none => some noCopy
  | some copy =>
    if copy.satisfies s.tolerance then none
    else
      let lag := (copy.lag?.map Freshness.name).getD ""
      some s!"freshness too strict: replica lag '{lag}' exceeds '{s.tolerance.name}'"

/-- The tables that cannot be served from a database, with the reasons. -/
def obstacles (s : Setting) (database : String) : Entries String String :=
  s.tables.filterMap fun t => (obstacle s t database).map (t.apiName, ·)

/-- How many of the tables a database is home to. -/
def homes (s : Setting) (database : String) : Nat :=
  s.tables.countP fun t => (s.catalog.copyIn? t database).any Copy.isHome

/-- The databases that can serve every table: those that are home to more of them first, then by
name. -/
def candidates (s : Setting) : List String :=
  ((s.catalog.databasesOf s.tables).filter fun database => (obstacles s database).isEmpty).mergeSort
    fun a b => homes s b < homes s a || (homes s a == homes s b && a ≤ b)

/-- The databases that cannot serve every table, with the reasons. -/
def rejected (s : Setting) : Value :=
  .object ((s.catalog.databasesOf s.tables).filterMap fun database =>
    match obstacles s database with
    | [] => none
    | found => some (database, .object (found.map fun (t, why) => (t, .text why))))

/-- The route to the best database that can serve every table. -/
def materialized (s : Setting) : Traced (Option Route) :=
  match candidates s with
  | [] => do
    .note .planning "Materialized strategy rejected" [
      ("tolerance", .ofWord s.tolerance), ("rejected", rejected s)]
    return none
  | best :: rest => do
    let ranking := (best :: rest).map fun database =>
      Value.list [.text database, .int (homes s database)]
    .note .planning "Materialized candidates ranked" [
      ("tolerance", .ofWord s.tolerance), ("ranking", .list ranking), ("rejected", rejected s)]
    return some (.materialized best)

/-- The home databases that federation does not reach, in order. -/
def withoutCatalog (s : Setting) : List String :=
  sortedOnce ((s.tables.map (·.database)).filter fun id =>
    !(s.catalog.database? id).any Database.hasCatalog)

/-- Why the home databases cannot be federated. -/
def federationObstacle (s : Setting) : Option String :=
  if !s.facilities.federation then some "trino disabled"
  else
    match withoutCatalog s with
    | [] => none
    | missing =>
      let names := ", ".intercalate missing
      some s!"no trino catalog for {names}"

/-- The route across all home databases. -/
def federated (s : Setting) : Traced (Option Route) :=
  match federationObstacle s with
  | none => return some .federated
  | some reason => do
    .note .planning "Trino strategy rejected" [("reason", .text reason)]
    return none

/-- Why a database is not taken although it can serve one of the tables. -/
def otherObstacle (s : Setting) (t : Table) (database : String) : String :=
  let lacking := s.tables.filter fun other =>
    other.apiName != t.apiName && (obstacle s other database).isSome
  "cannot serve " ++ ", ".intercalate (lacking.map (·.apiName))

/-- The report on a table that the database of the first one does not serve. -/
def report (s : Setting) (anchor : String) (t : Table) : Option Unreachable :=
  (obstacle s t anchor).map fun problem =>
    let verdict := (federationObstacle s).getD "trino available"
    let colocation :=
      if problem = noCopy then "no original/replica co-location" else "freshness too strict"
    let checked : Entries String String := (s.catalog.databasesOf s.tables).map fun database =>
      (database, (obstacle s t database).getD (otherObstacle s t database))
    ⟨t.apiName, s!"{colocation}, {verdict}", checked.put "trino" verdict⟩

/-- The reports on all tables that cannot be reached together with the first one. -/
def reports (s : Setting) : List Unreachable :=
  match s.tables with
  | [] => []
  | first :: rest => rest.filterMap (report s first.database)

/-- The first route that applies. -/
def firstRoute : List (Traced (Option Route)) → Traced (Option Route)
  | [] => return none
  | attempt :: rest => do
    match ← attempt with
    | some route => return some route
    | none => firstRoute rest

/-- The best route for a query. -/
def chooseRoute (s : Setting) : Traced Route := do
  match ← firstRoute [throughCache s, direct s, materialized s, federated s] with
  | some route => return route
  | none =>
    let tables := reports s
    .note .planning "No strategy applies" [
      ("unreachable", .list (tables.map (·.toValue)))]
    .log .info "query_unreachable" [("tables", .ofTexts (tables.map (·.table)))]
    .refuse (.unreachable tables)

/-- The dialect that an engine is addressed in. -/
def dialectOf : Engine → String
  | .postgres => "postgres"
  | .clickhouse => "clickhouse"
  | .iceberg => "trino"

def databaseOf (c : Catalog) (id : String) : Except Fault Database :=
  match c.database? id with
  | some d => .ok d
  | none => .error .absent

/-- The assignment of a copy. Copies in a lake are named with catalog and schema, and so are all
copies of a federated statement. -/
def assign (c : Catalog) (qualified : Bool) (copy : Copy) : Except Fault Assignment := do
  let d ← databaseOf c copy.database
  return if qualified || d.engine == .iceberg then ⟨copy, d.catalog, some d.schema⟩
    else ⟨copy, none, none⟩

/-- The copy of a table that serves a route. -/
def copyFor (c : Catalog) (route : Route) (t : Table) : Except Fault Copy :=
  match route with
  | .materialized database =>
    match c.copyIn? t database with
    | some copy => .ok copy
    | none => .error .absent
  | _ => .ok (.home t)

/-- The dialect of the statement of a route, if the route needs one. -/
def engineFor (c : Catalog) (route : Route) : Except Fault (Option String) :=
  match route with
  | .federated => .ok (some "trino")
  | .cached hit =>
    if hit.isComplete then .ok none
    else (fun d => some (dialectOf d.engine)) <$> databaseOf c hit.database
  | .direct database | .materialized database =>
    (fun d => some (dialectOf d.engine)) <$> databaseOf c database

/-- The assignments of tables on a route. -/
def assignments (c : Catalog) (route : Route) : List Table
    → Except Fault (Entries String Assignment)
  | [] => .ok []
  | t :: rest => do
    let qualified := route matches .federated
    let assignment ← assign c qualified (← copyFor c route t)
    return (t.apiName, assignment) :: (← assignments c route rest)

/-- The ids that the statement of a route is restricted to. -/
def idsFor (route : Route) (q : Query) : Option (List Value) :=
  match route with
  | .cached hit => if hit.isComplete then none else some hit.fallback
  | _ => if q.idList.isEmpty then none else some q.idList

/-- The plan that takes a route. -/
def planFor (s : Setting) (route : Route) : Except Fault Plan := do
  let assignments ← assignments s.catalog route s.tables
  let engine ← engineFor s.catalog route
  return ⟨route, engine, assignments, s.granted, s.tolerance, idsFor route s.granted.query⟩

/-- The tables of a query, in order. -/
def tablesOf (s : ScopedQuery) : List String → Except Fault (List Table)
  | [] => .ok []
  | name :: rest =>
    match s.scopes.lookup name with
    | none => .error (.unknownName name)
    | some scope => (scope.table :: ·) <$> tablesOf s rest

/-- Plans a query. -/
def plan (c : Catalog) (facilities : Facilities) (granted : ScopedQuery) (context : Context)
    (tolerance : Freshness) : Traced Plan :=
  match tablesOf granted granted.query.tableNames with
  | .error fault => .fail (.fault fault)
  | .ok tables => do
    let s : Setting := ⟨c, facilities, granted, tables, context, tolerance⟩
    .note .planning "Planning started" [
      ("tables", .ofTexts (tables.map (·.apiName))), ("tolerance", .ofWord tolerance),
      ("trino_enabled", .bool facilities.federation)]
    let route ← chooseRoute s
    match planFor s route with
    | .error fault => .fail (.fault fault)
    | .ok plan =>
      .note .planning "Strategy selected" plan.summary
      .log .debug "query_planned" [
        ("strategy", .text route.strategy), ("target", .text route.target)]
      return plan

end Planning

end Polystore
