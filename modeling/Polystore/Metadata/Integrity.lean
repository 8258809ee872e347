import Polystore.Metadata.Document
import Polystore.Order

/-!
Integrity of metadata documents: names are declared once, and whatever is referred to exists. All
problems of a document are found together, in the order of its parts.
-/

namespace Polystore

/-- What is wrong with a document. -/
inductive Problem where
  | repeatedDatabase (id : String)
  | repeatedTable (id : String)
  | repeatedApiName (name : String)
  | repeatedRole (id : String)
  | tableDatabase (table database : String)
  | repeatedColumn (column table : String)
  | keyColumn (column table : String)
  | relationColumn (table column : String)
  | relationTable (table target : String)
  | relationTarget (table target column : String)
  | syncSource (source : String)
  | syncTarget (target source : String)
  | syncWithin (source database : String)
  | repeatedSync (source target : String)
  | cacheTable (table : String)
  | cacheColumn (table column : String)
  | ruleTable (role table : String)
  | allowedColumn (role table column : String)
  | rowColumn (role table column : String)
  | contextKey (role table column : String) (operator : RowOperator)
  deriving DecidableEq

namespace Problem

def message : Problem → String
  | repeatedDatabase id => s!"database id '{id}' is declared more than once"
  | repeatedTable id => s!"table id '{id}' is declared more than once"
  | repeatedApiName name => s!"table apiName '{name}' is declared more than once"
  | repeatedRole id => s!"role id '{id}' is declared more than once"
  | tableDatabase table database =>
    s!"table '{table}' references unknown database '{database}'"
  | repeatedColumn column table => s!"column '{column}' is declared twice on table '{table}'"
  | keyColumn column table => s!"primary key column '{column}' is not a column of '{table}'"
  | relationColumn table column => s!"relation on '{table}' uses unknown column '{column}'"
  | relationTable table target => s!"relation on '{table}' targets unknown table '{target}'"
  | relationTarget table target column =>
    s!"relation on '{table}' targets unknown column '{target}.{column}'"
  | syncSource source => s!"sync source table '{source}' does not exist"
  | syncTarget target source =>
    s!"sync target database '{target}' of table '{source}' does not exist"
  | syncWithin source database => s!"sync of '{source}' targets its own database '{database}'"
  | repeatedSync source target => s!"table '{source}' is synced to '{target}' more than once"
  | cacheTable table => s!"cache entry references unknown table '{table}'"
  | cacheColumn table column => s!"cache entry for '{table}' lists unknown column '{column}'"
  | ruleTable role table => s!"role '{role}' has a rule for unknown table '{table}'"
  | allowedColumn role table column => s!"role '{role}' allows unknown column '{table}.{column}'"
  | rowColumn role table column =>
    s!"role '{role}' filters on unknown column '{table}.{column}'"
  | contextKey role table column operator =>
    s!"role '{role}' filter on '{table}.{column}' needs a context key for operator "
      ++ s!"'{operator.name}'"

end Problem

namespace Document

/-- The last table of an id. -/
def tableOfId? (d : Document) (id : String) : Option Table :=
  d.tables.reverse.find? fun t => t.id == id

def hasDatabase (d : Document) (id : String) : Bool := d.databases.any fun b => b.id == id

/-- Names declared more than once among those that have to be unique. -/
def nameProblems (d : Document) : List Problem :=
  (repeated (d.databases.map (·.id))).map .repeatedDatabase
    ++ (repeated (d.tables.map (·.id))).map .repeatedTable
    ++ (repeated (d.tables.map (·.apiName))).map .repeatedApiName
    ++ (repeated (d.roles.map (·.id))).map .repeatedRole

/-- Columns of a list that a table does not have. -/
def lacking (t : Table) (columns : List String) : List String :=
  columns.filter fun c => (t.column? c).isNone

def relationProblems (d : Document) (t : Table) (r : Relation) : List Problem :=
  (lacking t [r.sourceColumn]).map (.relationColumn t.apiName)
    ++ match d.tableOfId? r.targetTable with
      | none => [.relationTable t.apiName r.targetTable]
      | some target =>
        (lacking target [r.targetColumn]).map (.relationTarget t.apiName target.apiName)

def tableProblems (d : Document) (t : Table) : List Problem :=
  (if d.hasDatabase t.database then [] else [.tableDatabase t.apiName t.database])
    ++ (repeated t.columnNames).map (.repeatedColumn · t.apiName)
    ++ (lacking t t.primaryKey).map (.keyColumn · t.apiName)
    ++ t.relations.flatMap (relationProblems d t)

/-- The problems of one copy, given the copies declared before it. -/
def syncProblems (d : Document) (earlier : List Sync) (s : Sync) : List Problem :=
  let source := d.tableOfId? s.sourceTable
  (if source.isNone then [.syncSource s.sourceTable] else [])
    ++ (if d.hasDatabase s.targetDatabase then []
        else [.syncTarget s.targetDatabase s.sourceTable])
    ++ (if source.any fun t => t.database == s.targetDatabase then
          [.syncWithin s.sourceTable s.targetDatabase]
        else [])
    ++ (if earlier.any fun e =>
          e.sourceTable == s.sourceTable && e.targetDatabase == s.targetDatabase then
          [.repeatedSync s.sourceTable s.targetDatabase]
        else [])

/-- The problems of copies, given those declared before them. -/
def syncProblemsFrom (d : Document) (earlier : List Sync) : List Sync → List Problem
  | [] => []
  | s :: rest => syncProblems d earlier s ++ syncProblemsFrom d (earlier ++ [s]) rest

def cacheProblems (d : Document) (c : CachedTable) : List Problem :=
  match d.tableOfId? c.table with
  | none => [.cacheTable c.table]
  | some t => (lacking t (c.columns.getD [])).map (.cacheColumn t.apiName)

def rowProblems (role : String) (t : Table) (r : RowRule) : List Problem :=
  (lacking t [r.column]).map (.rowColumn role t.apiName)
    ++ (if r.operator.toOperator.isNullCheck || r.contextKey.any (!·.isEmpty) then []
        else [.contextKey role t.apiName r.column r.operator])

def ruleProblems (d : Document) (role : String) (r : TableRule) : List Problem :=
  match d.tableOfId? r.table with
  | none => [.ruleTable role r.table]
  | some t =>
    (match r.allowed with
      | .all => []
      | .only names => (lacking t names).map (.allowedColumn role t.apiName))
      ++ r.rows.flatMap (rowProblems role t)

/-- Everything that is wrong with a document. -/
def problems (d : Document) : List Problem :=
  d.nameProblems ++ d.tables.flatMap d.tableProblems ++ d.syncProblemsFrom [] d.syncs
    ++ d.caches.flatMap d.cacheProblems
    ++ d.roles.flatMap fun role => role.tables.flatMap (d.ruleProblems role.id)

/-- Whether nothing is wrong with a document. -/
def Intact (d : Document) : Prop := d.problems = []

instance (d : Document) : Decidable d.Intact := inferInstanceAs (Decidable (_ = _))

end Document

end Polystore
