import Polystore.Metadata.Document

/-!
Metadata as values: every entity as an object with all its fields.
-/

namespace Polystore

namespace Value

/-- Text, or null where there is none. -/
def ofText? : Option String → Value
  | some s => .text s
  | none => .null

def ofTexts (texts : List String) : Value := .list (texts.map .text)

/-- A word of a vocabulary. -/
def ofWord {α : Type} [Vocabulary α] (a : α) : Value := .text (Vocabulary.name a)

/-- What a function makes of a thing, or null where there is none. -/
def ofOption {α : Type} (f : α → Value) : Option α → Value
  | some a => f a
  | none => .null

end Value

namespace Database

def toValue (d : Database) : Value := .object [
  ("id", .text d.id), ("engine", .ofWord d.engine), ("trino_catalog", .ofText? d.catalog),
  ("schema_name", .ofText? d.schemaName)]

end Database

namespace Column

def toValue (c : Column) : Value := .object [
  ("api_name", .text c.apiName), ("physical_name", .text c.physicalName),
  ("type", .ofWord c.type), ("nullable", .bool c.nullable), ("indexed", .bool c.indexed)]

end Column

namespace Relation

def toValue (r : Relation) : Value := .object [
  ("source_column", .text r.sourceColumn), ("target_table", .text r.targetTable),
  ("target_column", .text r.targetColumn), ("kind", .ofWord r.kind)]

end Relation

namespace Table

def toValue (t : Table) : Value := .object [
  ("id", .text t.id), ("api_name", .text t.apiName), ("database", .text t.database),
  ("physical_name", .text t.physicalName), ("columns", .list (t.columns.map (·.toValue))),
  ("primary_key", .ofTexts t.primaryKey),
  ("relations", .list (t.relations.map (·.toValue)))]

end Table

namespace Sync

def toValue (s : Sync) : Value := .object [
  ("source_table", .text s.sourceTable), ("target_database", .text s.targetDatabase),
  ("target_physical_name", .text s.targetPhysicalName), ("method", .ofWord s.method),
  ("estimated_lag", .ofWord s.estimatedLag)]

end Sync

namespace CachedTable

def toValue (c : CachedTable) : Value := .object [
  ("table", .text c.table), ("key_pattern", .text c.keyPattern),
  ("ttl", .ofOption .int c.ttl), ("columns", .ofOption .ofTexts c.columns)]

end CachedTable

namespace RowRule

def toValue (r : RowRule) : Value := .object [
  ("column", .text r.column), ("operator", .ofWord r.operator),
  ("context_key", .ofText? r.contextKey)]

end RowRule

namespace AllowedColumns

def toValue : AllowedColumns → Value
  | all => .text "all"
  | only names => .ofTexts names

end AllowedColumns

namespace TableRule

def toValue (r : TableRule) : Value := .object [
  ("table", .text r.table), ("allowed_columns", r.allowed.toValue),
  ("filters", .list (r.rows.map (·.toValue)))]

end TableRule

namespace Role

def toValue (r : Role) : Value := .object [
  ("id", .text r.id), ("tables", .list (r.tables.map (·.toValue)))]

end Role

namespace Document

def federationValue (d : Document) : Value := .object [("enabled", .bool d.federation)]

def toValue (d : Document) : Value := .object [
  ("databases", .list (d.databases.map (·.toValue))),
  ("tables", .list (d.tables.map (·.toValue))), ("syncs", .list (d.syncs.map (·.toValue))),
  ("caches", .list (d.caches.map (·.toValue))), ("roles", .list (d.roles.map (·.toValue))),
  ("trino", d.federationValue)]

end Document

end Polystore
