import Polystore.Metadata.Catalog
import Polystore.Metadata.Record

/-!
Where the copies of tables are. A table has its home copy in its own database and a replica in the
target of each of its syncs; an intact document has at most one copy of a table in a database.
-/

namespace Polystore

/-- A copy of a table. -/
inductive Copy where
  | home (t : Table)
  | replica (t : Table) (s : Sync)
  deriving DecidableEq, Inhabited

namespace Copy

def table : Copy → Table
  | home t => t
  | replica t _ => t

def database : Copy → String
  | home t => t.database
  | replica _ s => s.targetDatabase

def physicalName : Copy → String
  | home t => t.physicalName
  | replica _ s => s.targetPhysicalName

def isHome : Copy → Bool
  | home _ => true
  | replica _ _ => false

def kindName (copy : Copy) : String := if copy.isHome then "original" else "materialized"

def lag? : Copy → Option Freshness
  | home _ => none
  | replica _ s => some s.estimatedLag

/-- Whether a copy is fresh enough; the home copy always is. -/
def satisfies (copy : Copy) (tolerance : Freshness) : Bool :=
  copy.lag?.all fun lag => lag.satisfies tolerance

/-- Whether a copy does not come behind another one. Home copies come first; otherwise copies are
ordered by database. -/
def precedes (a b : Copy) : Bool :=
  (a.isHome && !b.isHome) || (a.isHome == b.isHome && a.database ≤ b.database)

def sync? : Copy → Option Sync
  | home _ => none
  | replica _ s => some s

/-- The copy as a list: where it is, how it lags, and the classes of lag it satisfies. -/
def toValue (copy : Copy) : Value := .list [
  .text copy.table.apiName, .text copy.database, .text copy.kindName, .text copy.physicalName,
  .ofOption .ofWord copy.lag?, .ofOption Sync.toValue copy.sync?,
  .list ((Vocabulary.members.filter copy.satisfies).map .ofWord)]

end Copy

namespace Catalog

/-- The copies of a table, the home copy first. -/
def copies (c : Catalog) (t : Table) : List Copy :=
  .home t :: (c.syncsOf t).map (.replica t)

/-- The copy of a table in a database. -/
def copyIn? (c : Catalog) (t : Table) (database : String) : Option Copy :=
  (c.copies t).find? fun copy => copy.database == database

/-- The copies of a table, the home copy first and the replicas by database. -/
def copiesInOrder (c : Catalog) (t : Table) : List Copy := (c.copies t).mergeSort Copy.precedes

/-- The databases that hold a copy of one of some tables, in order. -/
def databasesOf (c : Catalog) (tables : List Table) : List String :=
  sortedOnce (tables.flatMap fun t => (c.copies t).map Copy.database)

end Catalog

end Polystore
