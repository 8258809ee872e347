import Polystore.Metadata.Integrity

/-!
Catalogs: intact metadata documents, and what is looked up in them. Where a document may declare
several entries for one key, the last one counts.
-/

namespace Polystore

structure Catalog where
  document : Document
  intact : document.Intact

namespace Catalog

/-- The catalog of a document, or all that is wrong with it. -/
def ofDocument (d : Document) : Except (List Problem) Catalog :=
  if h : d.Intact then .ok ⟨d, h⟩ else .error d.problems

def tables (c : Catalog) : List Table := c.document.tables

/-- The names of all tables. -/
def tableNames (c : Catalog) : List String := c.tables.map (·.apiName)

/-- The table of a name. -/
def table? (c : Catalog) (name : String) : Option Table :=
  c.tables.find? fun t => t.apiName == name

def tableOfId? (c : Catalog) (id : String) : Option Table :=
  c.tables.find? fun t => t.id == id

def database? (c : Catalog) (id : String) : Option Database :=
  c.document.databases.find? fun d => d.id == id

def hasRole (c : Catalog) (id : String) : Bool := c.document.roles.any fun r => r.id == id

/-- The rule of a role for a table. -/
def rule? (c : Catalog) (role : String) (t : Table) : Option TableRule :=
  let rules := c.document.roles.flatMap fun r => if r.id == role then r.tables else []
  rules.reverse.find? fun rule => rule.table == t.id

/-- The copies of a table, in the order of the document. -/
def syncsOf (c : Catalog) (t : Table) : List Sync :=
  c.document.syncs.filter fun s => s.sourceTable == t.id

/-- What the cache holds of a table. -/
def cacheOf? (c : Catalog) (t : Table) : Option CachedTable :=
  c.document.caches.reverse.find? fun e => e.table == t.id

/-- The relations that link two tables, each with the table that declares it. -/
def relationsBetween (left right : Table) : List (Table × Relation) :=
  let towards (owner other : Table) : List (Table × Relation) :=
    (owner.relations.filter fun r => r.targetTable == other.id).map (owner, ·)
  towards left right ++ if left.id == right.id then [] else towards right left

end Catalog

end Polystore
